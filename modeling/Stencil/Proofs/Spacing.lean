import Stencil.Proofs.Evaluation.Shape
import Stencil.Proofs.Parser.Laziness
import Stencil.Proofs.Parser.Moved
import Stencil.Proofs.Token.Emission
import Stencil.Proofs.Token.Tiling

/-! Blanks between the tokens of holes. With more of them a text has tokens of the same kinds and characters,
so it is parsed to a tree of the same shape and rendered alike. For a token is read from its own characters and
in view of the next one only, where a blank ends it as well as any character that did. -/

namespace Stencil

open Text Number

/-- What a token is, regardless of its place. -/
def Token.face (token : Token) : TokenKind × String := (token.kind, token.lexeme)

/-- The characters of some tokens with blanks in front of those in holes, and the same with more blanks there. -/
inductive Loosened : List Token → List Char → List Char → Prop where
  | nil : Loosened [] [] []
  | outside {token : Token} {tokens : List Token} {text looser : List Char}
      (outer : token.kind.isInner = false) (loosened : Loosened tokens text looser) :
      Loosened (token :: tokens) (token.lexeme.toList ++ text) (token.lexeme.toList ++ looser)
  | inside {token : Token} {tokens : List Token} {gap wider text looser : List Char}
      (inner : token.kind.isInner = true) (kept : gap.Sublist wider)
      (blank : ∀ c ∈ wider, isInlineBlank c = true) (loosened : Loosened tokens text looser) :
      Loosened (token :: tokens) (gap ++ (token.lexeme.toList ++ text))
        (wider ++ (token.lexeme.toList ++ looser))

/-- A piece with a run of blanks in front of the token if it stands in a hole. -/
def Piece.spread (runs : Token → List Char) (piece : Piece) : List Char :=
  piece.gap ++ (if piece.token.kind.isInner then runs piece.token else []) ++
    piece.token.lexeme.toList

/-- Trees of one shape that are rendered alike with every source, or failures that only differ in their
places. -/
inductive ParsedAlike : Except Failure Template → Except Failure Template → Prop where
  | parsed {template other : Template} (shape : template.shape = other.shape)
      (renders : ∀ (self : Evaluator) (source : Source),
        (self.render template source).Agrees (self.render other source)) :
      ParsedAlike (.ok template) (.ok other)
  | refused {failure other : Failure} (same : failure.unplaced = other.unplaced) :
      ParsedAlike (.error failure) (.error other)

/-! ### Looser texts -/

namespace Loosened

variable {tokens : List Token} {text looser : List Char}

theorem beginsAs (loosened : Loosened tokens text looser) : BeginsAs text looser := by
  induction loosened with
  | nil => exact fun c first => .inl first
  | @outside token _ _ _ _ _ ih => exact ih.append_left _
  | @inside token _ gap wider _ _ _ kept blank _ ih =>
    cases wider with
    | cons c rest =>
      rintro d ⟨⟩
      exact .inr (blank c List.mem_cons_self)
    | nil =>
      rw [List.sublist_nil.mp kept]
      exact ih.append_left _

theorem eq_nil (loosened : Loosened [] text looser) : looser = [] := by
  cases loosened
  rfl

/-- Blanks in front of something visible can be told from it. -/
theorem gap_unique {gap other rest rest' : List Char} {c : Char}
    (blank : ∀ d ∈ gap, isInlineBlank d = true) (blank' : ∀ d ∈ other, isInlineBlank d = true)
    (visible : isInlineBlank c = false) (same : gap ++ c :: rest = other ++ c :: rest') :
    gap = other := by
  have stops : ∀ behind : List Char, Stops isInlineBlank (c :: behind) := by
    rintro behind d ⟨⟩
    exact visible
  rw [← takeWhile_append_of_stops blank (stops rest), same,
    takeWhile_append_of_stops blank' (stops rest')]

/-- In front of a token that is read there are only more blanks, and what is behind it is looser too. -/
theorem of_pulls {scanner next : Scanner} {token : Token} (pulls : Pulls scanner token next)
    (loosened : Loosened (token :: tokens) scanner.rest looser) :
    ∃ wider other, looser = wider ++ (token.lexeme.toList ++ other) ∧
      (∀ c ∈ wider, isInlineBlank c = true) ∧ (wider ≠ [] → scanner.mode = .hole) ∧
      Loosened tokens next.rest other := by
  obtain ⟨position, gap, inHole, spelled⟩ := pulls
  rename_i mode last kind lexeme following blanks
  have inner := spelled.isInner_eq
  generalize whole : blanks ++ (lexeme ++ following) = rest at loosened
  cases loosened with
  | outside outer loosened =>
    have none : blanks = [] := by
      by_contra some
      rw [inHole some, outer] at inner
      cases inner
    rw [none, List.nil_append, String.toList_ofList] at whole
    rw [← List.append_cancel_left whole] at loosened
    exact ⟨[], _, rfl, by simp, by simp, loosened⟩
  | inside within kept blank loosened =>
    obtain rfl : mode = .hole := of_decide_eq_true (inner.symm.trans within)
    -- What stands in a hole begins visibly, so the blanks in front of it can be cut off in one way only.
    obtain ⟨c, rest, rfl, visible⟩ := Scanner.exists_cons_of_spells spelled
    rw [String.toList_ofList] at whole
    have same := gap_unique gap (fun c member => blank c (kept.subset member)) visible whole
    rw [same] at whole
    rw [← List.append_cancel_left (List.append_cancel_left whole)] at loosened
    exact ⟨_, _, rfl, blank, fun _ => rfl, loosened⟩

/-- Every choice of runs of blanks at the tokens of holes makes a looser text. -/
theorem of_tiles (runs : Token → List Char) {before : List Char} {inside : Bool} {pieces : List Piece}
    (tiles : AreTiles before inside pieces)
    (blank : ∀ piece ∈ pieces, ∀ c ∈ runs piece.token, isInlineBlank c = true) :
    Loosened (pieces.map Piece.token) (pieces.flatMap Piece.letters)
      (pieces.flatMap (Piece.spread runs)) := by
  induction pieces generalizing before inside with
  | nil => exact .nil
  | cons piece rest ih =>
    obtain ⟨fits, others⟩ := tiles
    obtain ⟨first, later⟩ := List.forall_mem_cons.mp blank
    have behind := ih others later
    rw [List.map_cons, List.flatMap_cons, List.flatMap_cons, Piece.letters, Piece.spread]
    simp only [List.append_assoc]
    cases inner : piece.token.kind.isInner with
    | false =>
      have none : piece.gap = [] := by
        by_contra some
        have within := fits.gap.inHole some
        rw [← fits.inner, inner] at within
        cases within
      rw [none]
      exact .outside inner behind
    | true =>
      rw [if_pos rfl, ← List.append_assoc piece.gap (runs piece.token)]
      exact .inside inner (List.sublist_append_left _ _)
        (List.forall_mem_append.mpr ⟨fits.gap.blank, first⟩) behind

end Loosened

/-! ### Looser scans -/

namespace Scanner

variable {scanner next : Scanner} {token : Token} {tokens : List Token} {looser : List Char}

/-- Behind the end of the input there is nothing, however loose the text is. -/
theorem nil_of_endOfInput (pulled : scanner.pull = .token token next)
    (loosened : Loosened next.scan.tokens next.rest looser) (last : token.kind = .endOfInput) :
    looser = [] := by
  rw [scan_of_finished ((endOfInput_iff pulled).mp last)] at loosened
  exact loosened.eq_nil

/-- Where a text would end, it still does. -/
theorem endsText_of_loosened {position : Position} {text : List Char}
    (complete : (scan ⟨.text, position, text⟩).failure = none)
    (loosened : Loosened (scan ⟨.text, position, text⟩).tokens text looser)
    (ends : endsText text = true) : endsText looser = true := by
  cases pulled : pull ⟨.text, position, text⟩ with
  | token token next =>
    have pulls := pulls_of_pull pulled
    rw [scan_of_token pulled] at loosened
    obtain ⟨wider, other, rfl, -, inHole, behind⟩ := loosened.of_pulls pulls
    have none : wider = [] := by
      by_contra some
      cases inHole some
    obtain ⟨-, rfl, spelled⟩ := pulls.of_text
    have noText := spelled.kind_ne_text ends
    have again := spelled.in_front_of behind.beginsAs (nil_of_endOfInput pulled behind)
      fun text => absurd text noText
    rw [none]
    exact again.endsText_of_kind_ne_text noText
  | failed failure =>
    rw [scan_of_failed pulled] at complete
    cases complete
  | exhausted => cases mode_of_exhausted pulled

/-- A looser text has the same tokens at other places. -/
theorem emits_loosened (complete : scanner.scan.failure = none)
    (loosened : Loosened scanner.scan.tokens scanner.rest looser) (position : Position) :
    ∃ others last, Emits ⟨scanner.mode, position, looser⟩ others last ∧ last.mode = .finished ∧
      others.map Token.face = scanner.scan.tokens.map Token.face := by
  induction scanner using scan.induct generalizing looser position with
  | case1 scanner token next pulled ih =>
    have pulls := pulls_of_pull pulled
    rw [scan_of_token pulled] at complete loosened ⊢
    obtain ⟨wider, other, rfl, blank, inHole, behind⟩ := loosened.of_pulls pulls
    -- A text ends in view of the token behind it, so that is looked at too.
    have ends : token.kind = .text → endsText other = true := by
      intro text
      have spelled := pulls.spells
      rw [text] at spelled
      obtain ⟨-, ends, mode⟩ := spelled.of_text
      obtain ⟨mode', place, rest⟩ := next
      obtain rfl : mode' = .text := mode
      exact endsText_of_loosened complete behind ends
    have spelled := pulls.spells.in_front_of behind.beginsAs (nil_of_endOfInput pulled behind) ends
    obtain ⟨others, last, emits, finished, faces⟩ :=
      ih complete behind ((position.after wider).after token.lexeme.toList)
    refine ⟨⟨token.kind, token.lexeme, position.after wider⟩ :: others, last, .cons ?_ emits,
      finished, ?_⟩
    · have read := Pulls.intro position blank inHole spelled
      rwa [String.ofList_toList] at read
    · rw [List.map_cons, List.map_cons, faces]
      rfl
  | case2 scanner failure pulled =>
    rw [scan_of_failed pulled] at complete
    cases complete
  | case3 scanner pulled =>
    have finished := mode_of_exhausted pulled
    rw [scan_of_exhausted pulled] at loosened ⊢
    rw [loosened.eq_nil]
    exact ⟨[], _, .nil _, finished, rfl⟩

end Scanner

/-! ### Looser trees -/

/-- Parsing takes no notice of places. -/
theorem parsedAlike_of_faces {tokens others : List Token}
    (same : others.map Token.face = tokens.map Token.face) :
    ParsedAlike (Eager.parse tokens) (Eager.parse others) := by
  have forget : ∀ list : List Token, list.map (Token.moved fun _ => .unknown) =
      (list.map Token.face).map fun face => ⟨face.1, face.2, .unknown⟩ := by
    intro list
    rw [List.map_map]
    rfl
  have parses := Eager.parse_moved (fun _ => .unknown) tokens
  rw [forget, ← same, ← forget, Eager.parse_moved] at parses
  cases first : Eager.parse tokens with
  | ok template =>
    cases second : Eager.parse others with
    | ok other =>
      rw [first, second] at parses
      have shape : template.shape = other.shape := (Except.ok.inj parses).symm
      exact .parsed shape fun self source => self.render_agrees source shape
    | error failure =>
      rw [first, second] at parses
      cases parses
  | error failure =>
    cases second : Eager.parse others with
    | ok other =>
      rw [first, second] at parses
      cases parses
    | error found =>
      rw [first, second] at parses
      refine .refused ?_
      rw [Failure.unplaced_eq_moved]
      exact (Except.error.inj parses).symm

/-! ### Whole texts -/

/-- A text with complete tokens consists of nothing else but gaps in front of them. -/
theorem exists_pieces_of_tokenize {text : String} {tokens : List Token}
    (tokenized : tokenize text = .ok tokens) : ∃ pieces : List Piece,
      pieces.map Piece.token = tokens ∧ pieces.flatMap Piece.letters = text.toList ∧
      AreTiles [] false pieces := by
  have scanned : (Scanner.ofText text.toList).scan = ⟨tokens, none⟩ := scan_of_tokenize tokenized
  have place : (Scanner.ofText text.toList).position = .behind [] := Position.start_eq_behind
  have running : (Scanner.ofText text.toList).mode ≠ .finished := Mode.noConfusion
  obtain ⟨pieces, gap, unread, names, covers, tiles, ends⟩ :=
    Scanner.exists_tiles place fun finished => absurd finished running
  rw [scanned] at names ends
  cases ends
  rw [List.append_nil, List.append_nil] at covers
  exact ⟨pieces, names, covers, tiles⟩

/-- A text with complete tokens consists of them and of blanks in front of those in holes, and with any runs
of blanks put there, or longer ones instead of those that are, it has the same tokens but for their places. So
it is parsed to a tree of the same shape and rendered alike, or refused for the same reason. -/
theorem blanks_are_insignificant {text : String} {tokens : List Token}
    (tokenized : tokenize text = .ok tokens) :
    (∃ pieces : List Piece, pieces.map Piece.token = tokens ∧
      pieces.flatMap Piece.letters = text.toList ∧
      ∀ runs : Token → List Char, (∀ token ∈ tokens, ∀ c ∈ runs token, isInlineBlank c = true) →
        Loosened tokens text.toList (pieces.flatMap (Piece.spread runs))) ∧
    ∀ looser : String, Loosened tokens text.toList looser.toList →
      (∃ others, tokenize looser = .ok others ∧
        others.map Token.face = tokens.map Token.face) ∧
      ParsedAlike (parse text) (parse looser) := by
  constructor
  · obtain ⟨pieces, rfl, covers, tiles⟩ := exists_pieces_of_tokenize tokenized
    refine ⟨pieces, rfl, covers, fun runs blank => ?_⟩
    rw [← covers]
    exact .of_tiles runs tiles fun piece member => blank piece.token (List.mem_map_of_mem member)
  · intro looser loosened
    have scanned : (Scanner.ofText text.toList).scan = ⟨tokens, none⟩ := scan_of_tokenize tokenized
    obtain ⟨others, last, emits, finished, faces⟩ :=
      (Scanner.ofText text.toList).emits_loosened (congrArg Scan.failure scanned)
        (by rwa [scanned]) .start
    rw [scanned] at faces
    have tokenized' := emits.tokenize_eq finished
    rw [Parser.parse_of_tokenize tokenized, Parser.parse_of_tokenize tokenized']
    exact ⟨⟨others, tokenized', faces⟩, parsedAlike_of_faces faces⟩

/-- The tokens of a call without any blanks. -/
def tightCall : List Token :=
  [⟨.openHole, "\x7b", ⟨0, 1, 1⟩⟩, ⟨.identifier, "a", ⟨1, 1, 2⟩⟩, ⟨.pipe, "|", ⟨2, 1, 3⟩⟩,
    ⟨.identifier, "f", ⟨3, 1, 4⟩⟩, ⟨.openParen, "(", ⟨4, 1, 5⟩⟩, ⟨.number, "1", ⟨5, 1, 6⟩⟩,
    ⟨.closeParen, ")", ⟨6, 1, 7⟩⟩, ⟨.closeHole, "\x7d", ⟨7, 1, 8⟩⟩, ⟨.text, "!", ⟨8, 1, 9⟩⟩,
    ⟨.endOfInput, "", ⟨9, 1, 10⟩⟩]

theorem blanks_are_insignificant_tightCall :
    tokenize "\x7ba|f(1)\x7d!" = .ok tightCall ∧
    Loosened tightCall "\x7ba|f(1)\x7d!".toList "\x7b a| \tf(1 )\x7d!".toList ∧
    ParsedAlike (parse "\x7ba|f(1)\x7d!") (parse "\x7b a| \tf(1 )\x7d!") := by
  have tokenized : tokenize "\x7ba|f(1)\x7d!" = .ok tightCall := by cbv
  have tight : ∀ gap : List Char, ([] : List Char).Sublist gap := List.nil_sublist
  have blank : ∀ gap : List Char, gap.all isInlineBlank = true → ∀ c ∈ gap, isInlineBlank c = true :=
    fun _ => List.all_eq_true.mp
  have loosened : Loosened tightCall "\x7ba|f(1)\x7d!".toList "\x7b a| \tf(1 )\x7d!".toList :=
    .outside rfl <| .inside rfl (tight [' ']) (blank _ rfl) <| .inside rfl (tight []) (blank _ rfl) <|
      .inside rfl (tight [' ', '\t']) (blank _ rfl) <| .inside rfl (tight []) (blank _ rfl) <|
      .inside rfl (tight []) (blank _ rfl) <| .inside rfl (tight [' ']) (blank _ rfl) <|
      .inside rfl (tight []) (blank _ rfl) <| .outside rfl <| .outside rfl .nil
  exact ⟨tokenized, loosened, ((blanks_are_insignificant tokenized).2 _ loosened).2⟩

end Stencil
