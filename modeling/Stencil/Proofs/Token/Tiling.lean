import Mathlib.Data.List.Chain
import Stencil.Proofs.Position.Behind
import Stencil.Proofs.Token.Neighbours

/-! Where the tokens of a text stand. With the blanks skipped in front of them they make up the text,
each at the place that counting the characters before it gives, up to the end of the text or to the
place of the failure. None begins inside a line end. -/

namespace Stencil

open Text

/-- A token with the characters that are skipped in front of it. -/
structure Piece where
  gap : List Char
  token : Token

def Piece.letters (piece : Piece) : List Char := piece.gap ++ piece.token.lexeme.toList

/-- Tokens of this kind stand inside a hole. The brace that opens it still stands outside. -/
def TokenKind.isInner : TokenKind → Bool
  | openHole | lineBreak | text | endOfInput => false
  | _ => true

/-- Whether a hole is open behind a token, given whether one is open before it. -/
def TokenKind.leaves (inside : Bool) : TokenKind → Bool
  | openHole => true
  | closeHole => false
  | _ => inside

/-- Whether a hole is open behind some tokens. -/
def holeOpen (inside : Bool) (tokens : List Token) : Bool :=
  tokens.foldl (fun inside token => token.kind.leaves inside) inside

/-- Characters that are skipped: blanks other than line ends, and none outside holes. -/
structure IsGap (inside : Bool) (gap : List Char) : Prop where
  blank : ∀ c ∈ gap, isInlineBlank c = true
  inHole : gap ≠ [] → inside = true

/-- What holds of a piece behind some text, inside a hole or outside. Only the end of the input has
no characters. -/
structure Piece.Fits (before : List Char) (inside : Bool) (piece : Piece) : Prop where
  gap : IsGap inside piece.gap
  position : piece.token.position = .behind (before ++ piece.gap)
  nonempty : piece.token.lexeme.toList = [] ↔ piece.token.kind = .endOfInput
  inner : piece.token.kind.isInner = inside

/-- Pieces one behind the other, each of which fits behind those before it. -/
def AreTiles : List Char → Bool → List Piece → Prop
  | _, _, [] => True
  | before, inside, piece :: rest =>
    piece.Fits before inside ∧
      AreTiles (before ++ piece.letters) (piece.token.kind.leaves inside) rest

/-- How tokens end behind some text: at its end and outside holes, or with a failure that is found
inside a hole, in front of characters that stay unread. -/
inductive EndsAt (before : List Char) (inside : Bool) :
    List Char → List Char → Option Failure → Prop where
  | complete (outside : inside = false) : EndsAt before inside [] [] none
  | failed {gap unread : List Char} {failure : Failure} (skipped : IsGap inside gap)
      (within : inside = true) (fails : FailsAt (.behind (before ++ gap)) unread failure) :
      EndsAt before inside gap unread (some failure)

/-- Pieces that make up a text together with a last gap and what is left unread. -/
structure Scan.Tiles (scan : Scan) (before : List Char) (inside : Bool) (rest : List Char)
    (pieces : List Piece) (gap unread : List Char) : Prop where
  tokens : pieces.map Piece.token = scan.tokens
  covers : pieces.flatMap Piece.letters ++ (gap ++ unread) = rest
  tiles : AreTiles before inside pieces
  ends : EndsAt (before ++ pieces.flatMap Piece.letters) (holeOpen inside scan.tokens) gap unread
    scan.failure

/-- Characters that stand in a text at a place, which is not inside a line end. -/
def StandsAt (text letters : List Char) (position : Position) : Prop :=
  ∃ before after, text = before ++ (letters ++ after) ∧ position = .behind before ∧
    ¬Fuses before (letters ++ after)

/-- The braces among tokens. -/
def braces (tokens : List Token) : List TokenKind :=
  (tokens.map Token.kind).filter fun kind => kind == .openHole || kind == .closeHole

/-- Braces in turn, the first of which opens a hole unless one is open. -/
structure AreAlternating (inside : Bool) (braces : List TokenKind) : Prop where
  chain : braces.IsChain (· ≠ ·)
  first : ∀ kind ∈ braces.head?, kind = if inside then .closeHole else .openHole

/-- What the tokens of a text are like, whether they are complete or end in a failure. -/
structure Scan.Tokenizes (scan : Scan) (text : List Char) : Prop where
  tiles : ∃ pieces gap unread, scan.Tiles [] false text pieces gap unread
  slices : ∀ token ∈ scan.tokens, StandsAt text token.lexeme.toList token.position
  modes : ∀ front token back, scan.tokens = front ++ token :: back →
    token.kind.isInner = holeOpen false front
  alternating : AreAlternating false (braces scan.tokens)
  texts : TextsApart scan.tokens
  last : ∀ front token back, scan.tokens = front ++ token :: back → token.kind = .endOfInput →
    back = [] ∧ scan.failure = none
  complete : scan.failure = none → EndsInput scan.tokens

/-- What a scanner gives, token by token, until it fails or has nothing left. Every step leaves
less to be read. -/
inductive Scanner.Yields : Scanner → Scan → Prop where
  | token {scanner next : Scanner} {token : Token} {others : Scan}
      (pulled : scanner.pull = .token token next) (less : next.size < scanner.size)
      (yields : next.Yields others) : scanner.Yields ⟨token :: others.tokens, others.failure⟩
  | failed {scanner : Scanner} {failure : Failure} (pulled : scanner.pull = .failed failure) :
      scanner.Yields ⟨[], some failure⟩
  | exhausted {scanner : Scanner} (pulled : scanner.pull = .exhausted) : scanner.Yields ⟨[], none⟩

/-! ### Single tokens -/

namespace Spells

variable {mode next : Mode} {kind : TokenKind} {lexeme following : List Char}

theorem isInner_eq (spelled : Spells mode kind lexeme following next) :
    kind.isInner = decide (mode = .hole) := by
  cases spelled with
  | punctuation mark =>
    rcases Scanner.mark_of_punctuation mark with ⟨-, rfl⟩ | ⟨-, rfl⟩ | ⟨-, rfl⟩ | ⟨-, rfl⟩ <;> rfl
  | _ => rfl

theorem leaves_eq (spelled : Spells mode kind lexeme following next) :
    kind.leaves (decide (mode = .hole)) = decide (next = .hole) := by
  cases spelled with
  | punctuation mark =>
    rcases Scanner.mark_of_punctuation mark with ⟨-, rfl⟩ | ⟨-, rfl⟩ | ⟨-, rfl⟩ | ⟨-, rfl⟩ <;> rfl
  | _ => rfl

theorem lexeme_eq_nil_iff (spelled : Spells mode kind lexeme following next) :
    lexeme = [] ↔ kind = .endOfInput := by
  cases spelled with
  | text plain => simpa using plain.nonempty
  | punctuation mark =>
    have marks := Scanner.mark_of_punctuation mark
    simp only [List.cons_ne_self, false_iff]
    rintro rfl
    simp at marks
  | number numeral => simpa using numeral.nonempty
  | identifier name => simpa using name.nonempty
  | _ => simp [Literal.encoded]

theorem following_eq_nil (spelled : Spells mode .endOfInput lexeme following next) :
    lexeme = [] ∧ following = [] := by
  cases spelled with
  | endOfInput => exact ⟨rfl, rfl⟩
  | punctuation mark => simpa using Scanner.mark_of_punctuation mark

/-- No token takes the carriage return of a line end and leaves the line feed. -/
theorem apart (spelled : Spells mode kind lexeme following next) : ¬Fuses lexeme following := by
  have wordly : ∀ letters : List Char, (∀ c ∈ letters, isWord c = true) →
      letters.getLast? ≠ some '\r' := by
    intro letters inside last
    have word := inside '\r' (List.mem_of_getLast? last)
    revert word
    decide
  rintro ⟨last, broken⟩
  cases spelled with
  | text plain separate => exact separate ⟨last, broken⟩
  | punctuation mark =>
    obtain rfl : _ = '\r' := Option.some.inj last
    cases mark
  | string value =>
    rw [Literal.encoded, List.getLast?_concat] at last
    cases last
  | number numeral =>
    exact wordly _ (fun c member => isWord_of_isDigit (numeral.digital c member)) last
  | identifier name => exact wordly _ name.isWord last
  | endOfInput => cases last
  | _ => simp at last

end Spells

theorem not_fuses_append {front back following : List Char} (nonempty : back ≠ [])
    (apart : ¬Fuses back following) : ¬Fuses (front ++ back) following := by
  rintro ⟨last, broken⟩
  rw [List.getLast?_append_of_ne_nil front nonempty] at last
  exact apart ⟨last, broken⟩

theorem not_fuses_gap {before gap following : List Char} {inside : Bool} (skipped : IsGap inside gap)
    (apart : ¬Fuses before (gap ++ following)) : ¬Fuses (before ++ gap) following := by
  by_cases none : gap = []
  · rw [none, List.nil_append] at apart
    rwa [none, List.append_nil]
  · apply not_fuses_append none
    rintro ⟨last, -⟩
    have blank := skipped.blank '\r' (List.mem_of_getLast? last)
    revert blank
    decide

/-! ### Tokens one after the other -/

theorem holeOpen_cons (inside : Bool) (token : Token) (rest : List Token) :
    holeOpen inside (token :: rest) = holeOpen (token.kind.leaves inside) rest := rfl

namespace AreTiles

theorem isInner_eq {before : List Char} {inside : Bool} {front back : List Piece} {piece : Piece}
    (tiles : AreTiles before inside (front ++ piece :: back)) :
    piece.token.kind.isInner = holeOpen inside (front.map Piece.token) := by
  induction front generalizing before inside with
  | nil => exact tiles.1.inner
  | cons first rest ih => exact ih tiles.2

theorem areAlternating {before : List Char} {inside : Bool} {pieces : List Piece}
    (tiles : AreTiles before inside pieces) :
    AreAlternating inside (braces (pieces.map Piece.token)) := by
  induction pieces generalizing before inside with
  | nil => exact ⟨.nil, by simp [braces]⟩
  | cons piece rest ih =>
    obtain ⟨fits, others⟩ := tiles
    obtain ⟨chain, first⟩ := ih others
    have inner := fits.inner
    by_cases brace : piece.token.kind = .openHole ∨ piece.token.kind = .closeHole
    · have kept : braces ((piece :: rest).map Piece.token) =
          piece.token.kind :: braces (rest.map Piece.token) := by
        rcases brace with kind | kind <;> simp [braces, kind]
      rw [kept]
      refine ⟨List.isChain_cons.mpr ⟨fun next member => ?_, chain⟩, fun kind member => ?_⟩
      · rw [first next member]
        rcases brace with kind | kind <;> simp [kind, TokenKind.leaves]
      · cases member
        rcases brace with kind | kind <;> rw [kind] at inner ⊢ <;> subst inner <;> rfl
    · obtain ⟨notOpen, notClose⟩ := not_or.mp brace
      have skipped : braces ((piece :: rest).map Piece.token) = braces (rest.map Piece.token) := by
        simp [braces, notOpen, notClose]
      have same : piece.token.kind.leaves inside = inside := by
        unfold TokenKind.leaves
        split
        next kind => exact absurd kind notOpen
        next kind => exact absurd kind notClose
        next => rfl
      rw [same] at first
      rw [skipped]
      exact ⟨chain, first⟩

end AreTiles

namespace Scanner

/-- A token with the blanks in front of it fits behind the text before, and the scanner behind the
token goes on with what is left. -/
theorem fits_of_pull {scanner next : Scanner} {token : Token} {before : List Char}
    (place : scanner.position = .behind before) (pulled : scanner.pull = .token token next) :
    ∃ gap, Piece.Fits before (decide (scanner.mode = .hole)) ⟨gap, token⟩ ∧
      token.kind.leaves (decide (scanner.mode = .hole)) = decide (next.mode = .hole) ∧
      scanner.rest = gap ++ (token.lexeme.toList ++ next.rest) ∧
      next.position = .behind (before ++ (gap ++ token.lexeme.toList)) ∧
      ¬Fuses token.lexeme.toList next.rest ∧
      (next.mode = .finished → next.rest = []) := by
  obtain ⟨position, blank, inHole, spelled⟩ := pulls_of_pull pulled
  rename_i mode last kind lexeme following gap
  obtain rfl : position = .behind before := place
  have placed : (Position.behind before).after gap = .behind (before ++ gap) :=
    Position.behind_after before gap
  refine ⟨gap, ⟨⟨blank, fun some => decide_eq_true (inHole some)⟩, placed, ?_, spelled.isInner_eq⟩,
    spelled.leaves_eq, by simp, ?_, by simpa using spelled.apart, fun finished => ?_⟩
  · simpa using spelled.lexeme_eq_nil_iff
  · simp only [String.toList_ofList]
    rw [placed, Position.behind_after, List.append_assoc]
  · obtain rfl := spelled.endOfInput_iff.mpr finished
    exact spelled.following_eq_nil.2

/-- A failure is found behind blanks in a hole. -/
theorem fails_of_pull {scanner : Scanner} {failure : Failure}
    (pulled : scanner.pull = .failed failure) :
    ∃ gap unread, IsGap (decide (scanner.mode = .hole)) gap ∧ scanner.mode = .hole ∧
      scanner.rest = gap ++ unread ∧ FailsAt (scanner.position.after gap) unread failure := by
  obtain ⟨mode, position, rest⟩ := scanner
  cases mode with
  | text =>
    obtain ⟨kind, lexeme, following, last, rfl, spelled⟩ := exists_spells_text rest
    have read : pull ⟨.text, position, lexeme ++ following⟩ = _ :=
      pullText_of_spells spelled position
    rw [read] at pulled
    cases pulled
  | finished => cases pulled
  | hole =>
    have cut := List.takeWhile_append_dropWhile (p := isInlineBlank) (l := rest)
    rcases pullHole_cases .hole (position.after (rest.takeWhile isInlineBlank))
      (rest.dropWhile isInlineBlank) with ⟨kind, lexeme, following, last, same, spelled⟩ | failed
    · have read := pullHole_of_spells spelled (position.after (rest.takeWhile isInlineBlank))
      rw [← same] at read
      cases read.symm.trans pulled
    · obtain ⟨found, same, fails⟩ := failed
      cases same.symm.trans pulled
      exact ⟨_, _, ⟨fun c => mem_takeWhile, fun _ => rfl⟩, rfl, cut.symm, fails⟩

theorem exists_tiles {scanner : Scanner} {before : List Char}
    (place : scanner.position = .behind before)
    (finished : scanner.mode = .finished → scanner.rest = []) :
    ∃ pieces gap unread, scanner.scan.Tiles before (decide (scanner.mode = .hole)) scanner.rest
      pieces gap unread := by
  induction scanner using scan.induct generalizing before with
  | case1 scanner token next pulled ih =>
    obtain ⟨gap, fits, leaves, rest, nextPlace, -, ended⟩ := fits_of_pull place pulled
    obtain ⟨pieces, lastGap, unread, tokens, covers, tiles, ends⟩ := ih nextPlace ended
    have letters : Piece.letters ⟨gap, token⟩ = gap ++ token.lexeme.toList := rfl
    rw [scan_of_token pulled]
    refine ⟨⟨gap, token⟩ :: pieces, lastGap, unread, ?_, ?_, ⟨fits, ?_⟩, ?_⟩
    · rw [List.map_cons, tokens]
    · rw [List.flatMap_cons, letters, rest, List.append_assoc, covers, List.append_assoc]
    · rw [letters, leaves]
      exact tiles
    · rw [holeOpen_cons, leaves, List.flatMap_cons, letters, ← List.append_assoc]
      exact ends
  | case2 scanner failure pulled =>
    obtain ⟨gap, unread, skipped, hole, rest, fails⟩ := fails_of_pull pulled
    rw [place, Position.behind_after] at fails
    rw [scan_of_failed pulled]
    refine ⟨[], gap, unread, rfl, rest.symm, trivial, ?_⟩
    rw [List.flatMap_nil, List.append_nil]
    exact .failed skipped (decide_eq_true hole) fails
  | case3 scanner pulled =>
    have done := mode_of_exhausted pulled
    rw [scan_of_exhausted pulled]
    refine ⟨[], [], [], rfl, (finished done).symm, trivial, .complete ?_⟩
    rw [done]
    rfl

/-- Tokens stand where their places say, and so does what cannot be read. -/
theorem standsAt_of_scan {scanner : Scanner} {before : List Char}
    (place : scanner.position = .behind before) (apart : ¬Fuses before scanner.rest) :
    (∀ token ∈ scanner.scan.tokens,
      StandsAt (before ++ scanner.rest) token.lexeme.toList token.position) ∧
    ∀ cause position, scanner.scan.failure = some (.template (.lexical cause position)) →
      StandsAt (before ++ scanner.rest) [] position := by
  induction scanner using scan.induct generalizing before with
  | case1 scanner token next pulled ih =>
    obtain ⟨gap, fits, -, rest, nextPlace, separate, -⟩ := fits_of_pull place pulled
    have begins : ¬Fuses (before ++ gap) (token.lexeme.toList ++ next.rest) :=
      not_fuses_gap fits.gap (rest ▸ apart)
    have goes_on : ¬Fuses (before ++ (gap ++ token.lexeme.toList)) next.rest := by
      by_cases empty : token.lexeme.toList = []
      · rw [empty, List.append_nil]
        rwa [empty, List.nil_append] at begins
      · rw [← List.append_assoc]
        exact not_fuses_append empty separate
    obtain ⟨others, failed⟩ := ih nextPlace goes_on
    have whole : before ++ (gap ++ token.lexeme.toList) ++ next.rest = before ++ scanner.rest := by
      rw [rest]
      simp only [List.append_assoc]
    rw [whole] at others failed
    rw [scan_of_token pulled]
    refine ⟨fun found member => ?_, failed⟩
    rcases List.mem_cons.mp member with rfl | later
    · refine ⟨before ++ gap, next.rest, ?_, fits.position, begins⟩
      rw [rest, List.append_assoc]
    · exact others found later
  | case2 scanner failure pulled =>
    obtain ⟨gap, unread, skipped, -, rest, fails⟩ := fails_of_pull pulled
    rw [place, Position.behind_after] at fails
    rw [scan_of_failed pulled]
    refine ⟨by simp, fun cause position same => ?_⟩
    cases same
    cases fails with
    | cause => exact ⟨before ++ gap, unread, by simp [rest], rfl, not_fuses_gap skipped (rest ▸ apart)⟩
  | case3 scanner pulled =>
    rw [scan_of_exhausted pulled]
    exact ⟨by simp, by simp⟩

theorem yields_scan (scanner : Scanner) : scanner.Yields scanner.scan := by
  induction scanner using scan.induct with
  | case1 scanner token next pulled ih =>
    rw [scan_of_token pulled]
    exact .token pulled (pull_size pulled) ih
  | case2 scanner failure pulled =>
    rw [scan_of_failed pulled]
    exact .failed pulled
  | case3 scanner pulled =>
    rw [scan_of_exhausted pulled]
    exact .exhausted pulled

end Scanner

/-- The tokens of every text tile it at the places that counting gives, each in its mode, whether the
end is reached or not. They come one by one, each from a shorter rest, so there are not many more of
them than characters. -/
theorem tokenizes_scan (text : String) :
    (scan text).Tokenizes text.toList ∧ (Scanner.ofText text.toList).Yields (scan text) ∧
      (scan text).tokens.length ≤ text.toList.length + 1 := by
  have place : (Scanner.ofText text.toList).position = .behind [] := Position.start_eq_behind
  have running : (Scanner.ofText text.toList).mode ≠ .finished := Mode.noConfusion
  have nothingBefore : ¬Fuses [] (Scanner.ofText text.toList).rest := by simp [Fuses]
  obtain ⟨pieces, gap, unread, tiled⟩ :=
    Scanner.exists_tiles place fun finished => absurd finished running
  refine ⟨⟨⟨pieces, gap, unread, tiled⟩, ?_, ?_, ?_, ?_, ?_, ?_⟩, ?_, ?_⟩
  · exact (Scanner.standsAt_of_scan place nothingBefore).1
  · intro front token back split
    have pieces_split := tiled.tokens.trans split
    obtain ⟨first, others, rfl, rfl, rest⟩ := List.map_eq_append_iff.mp pieces_split
    obtain ⟨piece, behind, rfl, rfl, -⟩ := List.map_eq_cons_iff.mp rest
    exact tiled.tiles.isInner_eq
  · have alternating := tiled.tiles.areAlternating
    rw [tiled.tokens] at alternating
    exact alternating
  · exact Scanner.textsApart_of_scan _
  · intro front token back split kind
    exact Scanner.complete_of_endOfInput split kind
  · exact Scanner.endsInput_of_scan running
  · exact Scanner.yields_scan _
  · exact Scanner.scan_length_le _

end Stencil
