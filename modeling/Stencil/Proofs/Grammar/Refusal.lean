import Stencil.Proofs.Grammar.Viability
import Stencil.Proofs.Token.Tiling

/-! What a run of the parser can fail with. The grammar is violated inside holes only, since every token
outside of them is allowed where it stands. Reading never asks for a token behind the end of the input,
and outside holes there is no character that cannot be read. -/

namespace Stencil

open Grammar

/-! ### Reading outside holes -/

namespace Scanner

theorem pullHole_ne_strayInText (scanner : Scanner) (c : Char) (position : Position) :
    scanner.pullHole ≠ .failed (.template (.lexical (.strayInText c) position)) := by
  intro failed
  unfold pullHole at failed
  split at failed
  · cases failed
  · split at failed
    · cases failed
    · split at failed
      · cases failed
      · split at failed
        · cases failed
        · split at failed
          · split at failed <;> cases failed
          · split at failed
            · unfold pullNumber at failed
              split at failed
              · cases failed
              · split at failed <;> cases failed
            · split at failed <;> cases failed

/-- Outside holes every character belongs to a token, and inside of them it is not reported as text. -/
theorem pull_ne_strayInText (scanner : Scanner) (c : Char) (position : Position) :
    scanner.pull ≠ .failed (.template (.lexical (.strayInText c) position)) := by
  obtain ⟨mode, place, rest⟩ := scanner
  cases mode with
  | text =>
    obtain ⟨kind, lexeme, following, last, rfl, spelled⟩ := exists_spells_text rest
    have read : pull ⟨.text, place, lexeme ++ following⟩ = _ := pullText_of_spells spelled place
    rw [read]
    exact nofun
  | hole => exact pullHole_ne_strayInText (skipBlanks ⟨.hole, place, rest⟩) c position
  | finished => exact nofun

theorem scan_ne_strayInText (scanner : Scanner) (c : Char) (position : Position) :
    scanner.scan.failure ≠ some (.template (.lexical (.strayInText c) position)) := by
  induction scanner using scan.induct with
  | case1 scanner token next pulled ih =>
    rw [scan_of_token pulled]
    exact ih
  | case2 scanner failure pulled =>
    rw [scan_of_failed pulled]
    intro same
    rw [Option.some.inj same] at pulled
    exact pull_ne_strayInText scanner c position pulled
  | case3 scanner pulled =>
    rw [scan_of_exhausted pulled]
    intro none
    cases none

/-- Tokens stand inside a hole or outside of them as their kinds belong there. -/
theorem isInner_eq_of_scan {text : String} {front back : List Token} {token : Token}
    (split : (Stencil.scan text).tokens = front ++ token :: back) :
    token.kind.isInner = holeOpen false front := by
  have place : (ofText text.toList).position = .behind [] := Position.start_eq_behind
  obtain ⟨pieces, gap, unread, tiled⟩ :=
    exists_tiles place fun finished => nomatch finished
  obtain ⟨first, others, rfl, rfl, rest⟩ :=
    List.map_eq_append_iff.mp (tiled.tokens.trans split)
  obtain ⟨piece, behind, rfl, rfl, -⟩ := List.map_eq_cons_iff.mp rest
  exact tiled.tiles.isInner_eq

end Scanner

/-! ### Holes open behind derived tokens -/

theorem holeOpen_append (inside : Bool) (front back : List Token) :
    holeOpen inside (front ++ back) = holeOpen (holeOpen inside front) back :=
  List.foldl_append

theorem holeOpen_of_isBetweenBraces {inside : Bool} {tokens : List Token}
    (between : ∀ token ∈ tokens, isBetweenBraces token.kind = true) :
    holeOpen inside tokens = inside := by
  induction tokens with
  | nil => rfl
  | cons token rest ih =>
    obtain ⟨first, others⟩ := List.forall_mem_cons.mp between
    have same : token.kind.leaves inside = inside := by
      unfold TokenKind.leaves
      split
      next kind => rw [kind] at first; cases first
      next kind => rw [kind] at first; cases first
      next => rfl
    rw [holeOpen_cons, same, ih others]

namespace Grammar

/-- Whatever has been read behind the brace that opens a hole, the hole is open. -/
theorem Chain.holeOpen_of_prefix {chain : Chain} {opening : Token} {tokens : List Token}
    (opened : opening.kind = .openHole) (begun : tokens <+: chain.tokens) (inside : Bool) :
    holeOpen inside (opening :: tokens) = true := by
  rw [holeOpen_cons, opened]
  exact holeOpen_of_isBetweenBraces fun token member =>
    chain.isBetweenBraces_of_mem (begun.subset member)

theorem Part.holeOpen_tokens (part : Part) : holeOpen false part.tokens = false := by
  cases part with
  | hole inner =>
    rw [Part.tokens, Hole.tokens, ← List.cons_append, holeOpen_append, holeOpen_cons,
      inner.closing.known]
    rfl
  | text word =>
    rw [Part.tokens, holeOpen_cons, word.known]
    rfl

theorem holeOpen_parts (parts : List Part) :
    holeOpen false (parts.flatMap Part.tokens) = false := by
  induction parts with
  | nil => rfl
  | cons part others ih =>
    rw [List.flatMap_cons, holeOpen_append, part.holeOpen_tokens, ih]

theorem holeOpen_lines (lines : List NextLine) :
    holeOpen false (lines.flatMap NextLine.tokens) = false := by
  induction lines with
  | nil => rfl
  | cons next others ih =>
    have marked : next.mark.token.kind.leaves false = false := by
      rw [next.mark.known]
      rfl
    rw [List.flatMap_cons, holeOpen_append, NextLine.tokens, holeOpen_cons, marked,
      holeOpen_parts, ih]

end Grammar

/-! ### Refused tokens -/

/-- What the grammar can miss inside a hole. -/
def expectedInHoles : List Expectation :=
  [.pipeOrCloseHole, .argument, .commaOrCloseParen, .argumentOrCloseParen]

/-- A hole is open behind the tokens before the found one. -/
def StandsInHole (tokens : List Token) (found : Token) : Prop :=
  ∃ before behind, tokens = before ++ found :: behind ∧ holeOpen false before = true

theorem StandsInHole.behind {front tokens : List Token} {found : Token}
    (stands : StandsInHole tokens found) (closed : holeOpen false front = false) :
    StandsInHole (front ++ tokens) found := by
  obtain ⟨before, behind, rfl, opened⟩ := stands
  refine ⟨front ++ before, behind, (List.append_assoc ..).symm, ?_⟩
  rw [holeOpen_append, closed, opened]

/-- A violation of the grammar inside a hole: where it is found, at what, and what was expected. -/
structure RefusedInHole (tokens : List Token) (found : Token) (expected : Expectation) : Prop where
  place : StandsInHole tokens found
  kind : found.kind ∈ [TokenKind.closeHole, .openParen, .closeParen, .comma, .pipe, .string, .number,
    .identifier]
  expected : expected ∈ expectedInHoles

namespace Eager

variable {found : Token} {expected : Expectation} {tokens rest : List Token}

theorem cons_of_expect_refused {kind : TokenKind} {wanted : Expectation}
    (refused : expect kind wanted tokens = .refused found expected) :
    expected = wanted ∧ ∃ rest, tokens = found :: rest := by
  cases tokens with
  | nil => cases refused
  | cons token rest =>
    rw [expect] at refused
    split at refused
    · cases refused
    · cases refused
      exact ⟨rfl, rest, rfl⟩

mutual

theorem argument_expects : (depth : Nat) → {tokens : List Token} →
    argument depth tokens = .refused found expected → expected ∈ expectedInHoles
  | depth + 1, token :: rest, refused => by
    simp only [argument] at refused
    split at refused
    · cases refused
    · cases refused
    · split at refused
      · cases refused
      · split at refused
        · exact call_expects depth refused
        · cases refused
    · cases refused
      decide

theorem call_expects : (depth : Nat) → {name : Token} → {tokens : List Token} →
    call depth name tokens = .refused found expected → expected ∈ expectedInHoles
  | depth + 1, name, token :: rest, refused => by
    simp only [call] at refused
    split at refused
    · rcases Outcome.refused_of_andThen refused with inFirst | ⟨first, middle, -, behind⟩
      · exact argument_expects depth inFirst
      rcases Outcome.refused_of_andThen behind with inOthers | ⟨others, after, -, behind⟩
      · exact moreArguments_expects depth inOthers
      · rw [(cons_of_expect_refused (Outcome.refused_of_map behind)).1]
        decide
    · rw [(cons_of_expect_refused (Outcome.refused_of_map refused)).1]
      decide

theorem moreArguments_expects : (depth : Nat) → {tokens : List Token} →
    moreArguments depth tokens = .refused found expected → expected ∈ expectedInHoles
  | depth + 1, token :: rest, refused => by
    simp only [moreArguments] at refused
    split at refused
    · rcases Outcome.refused_of_andThen refused with inNext | ⟨next, middle, -, behind⟩
      · exact argument_expects depth inNext
      · exact moreArguments_expects depth (Outcome.refused_of_map behind)
    · cases refused

end

theorem pipes_expects (depth : Nat) {left : Node}
    (refused : pipes depth left tokens = .refused found expected) :
    expected ∈ expectedInHoles := by
  induction depth generalizing left tokens with
  | zero => cases refused
  | succ depth ih =>
    cases tokens with
    | nil => cases refused
    | cons token rest =>
      simp only [pipes] at refused
      split at refused
      · rcases Outcome.refused_of_andThen refused with inTarget | ⟨target, middle, -, behind⟩
        · exact argument_expects depth inTarget
        · exact ih behind
      · cases refused

theorem chain_expects {depth : Nat} (refused : chain depth tokens = .refused found expected) :
    expected ∈ expectedInHoles := by
  rcases Outcome.refused_of_andThen refused with inFirst | ⟨first, middle, -, behind⟩
  · exact argument_expects depth inFirst
  · exact pipes_expects depth behind

/-- A chain refuses a token of its hole, since all that it has read before belongs to a chain. -/
theorem chain_refused {depth : Nat} {opening : Token} (opened : opening.kind = .openHole)
    (enough : tokens.length < depth) (refused : chain depth tokens = .refused found expected) :
    StandsInHole (opening :: tokens) found ∧ expected ∈ expectedInHoles := by
  refine ⟨?_, chain_expects refused⟩
  obtain ⟨before, behind, rfl, starved, -⟩ := (isOnline_chain depth).refuses refused
  rw [List.length_append] at enough
  obtain ⟨chain, begun⟩ := chain_viable (by omega) starved
  exact ⟨opening :: before, behind, rfl, Chain.holeOpen_of_prefix opened begun false⟩

theorem parts_refused (depth : Nat) (enough : tokens.length < depth)
    (refused : parts depth tokens = .refused found expected) :
    StandsInHole tokens found ∧ expected ∈ expectedInHoles := by
  induction depth generalizing tokens with
  | zero => cases enough
  | succ depth ih =>
    cases tokens with
    | nil => cases refused
    | cons token rest =>
      simp only [List.length_cons] at enough
      simp only [parts] at refused
      split at refused
      · rename_i kind
        obtain ⟨stands, known⟩ := ih (by omega) (Outcome.refused_of_map refused)
        exact ⟨stands.behind (Part.text ⟨token, kind⟩).holeOpen_tokens, known⟩
      · rename_i kind
        rcases Outcome.refused_of_andThen refused with inChain | ⟨node, middle, read, behind⟩
        · exact chain_refused kind (by omega) inChain
        obtain ⟨chain, rfl, -⟩ := chain_sound read
        rw [List.length_append] at enough
        rcases Outcome.refused_of_andThen behind with unclosed | ⟨closing, after, readClosing, late⟩
        · obtain ⟨rfl, others, rfl⟩ := cons_of_expect_refused unclosed
          refine ⟨⟨token :: chain.tokens, others, rfl, ?_⟩, by decide⟩
          exact Chain.holeOpen_of_prefix kind List.prefix_rfl false
        · obtain ⟨rfl, closed⟩ := cons_of_expect readClosing
          simp only [List.length_cons] at enough
          obtain ⟨stands, known⟩ := ih (by omega) (Outcome.refused_of_map late)
          have hole := (Part.hole ⟨⟨token, kind⟩, chain, ⟨closing, closed⟩⟩).holeOpen_tokens
          have later := stands.behind hole
          simp only [Part.tokens, Hole.tokens, List.cons_append, List.append_assoc,
            List.nil_append] at later
          exact ⟨later, known⟩
      · cases refused

theorem line_refused {depth : Nat} (enough : tokens.length < depth)
    (refused : line depth tokens = .refused found expected) :
    StandsInHole tokens found ∧ expected ∈ expectedInHoles := by
  cases tokens with
  | nil => cases refused
  | cons token rest => exact parts_refused depth enough (Outcome.refused_of_map refused)

theorem moreLines_refused (depth : Nat) (enough : tokens.length < depth)
    (refused : moreLines depth tokens = .refused found expected) :
    StandsInHole tokens found ∧ expected ∈ expectedInHoles := by
  induction depth generalizing tokens with
  | zero => cases enough
  | succ depth ih =>
    cases tokens with
    | nil => cases refused
    | cons token rest =>
      simp only [List.length_cons] at enough
      simp only [moreLines] at refused
      split at refused
      · rename_i kind
        have marked : holeOpen false [token] = false := by
          rw [holeOpen_cons, kind]
          rfl
        rcases Outcome.refused_of_andThen refused with inLine | ⟨next, middle, read, behind⟩
        · obtain ⟨stands, known⟩ := line_refused (by omega) inLine
          exact ⟨stands.behind marked, known⟩
        · obtain ⟨parts, following, more, -, rfl, -⟩ := line_sound read
          rw [List.length_append] at enough
          obtain ⟨stands, known⟩ := ih (by omega) (Outcome.refused_of_map behind)
          exact ⟨(stands.behind (holeOpen_parts parts)).behind marked, known⟩
      · cases refused

/-! ### Tokens outside holes -/

/-- A token that is no part of a line. -/
def LeavesLine (token : Token) : Prop := token.kind ≠ .text ∧ token.kind ≠ .openHole

theorem leavesLine_of_parts (depth : Nat) {nodes : List Node}
    (read : parts depth tokens = .read nodes rest) :
    ∃ following more, rest = following :: more ∧ LeavesLine following := by
  induction depth generalizing tokens nodes with
  | zero => cases read
  | succ depth ih =>
    cases tokens with
    | nil => cases read
    | cons token others =>
      simp only [parts] at read
      split at read
      · obtain ⟨nodes, later, -⟩ := Outcome.read_of_map read
        exact ih later
      · obtain ⟨node, middle, -, behind⟩ := Outcome.read_of_andThen read
        obtain ⟨closing, after, -, behind⟩ := Outcome.read_of_andThen behind
        obtain ⟨nodes, later, -⟩ := Outcome.read_of_map behind
        exact ih later
      · rename_i noText noHole
        cases read
        exact ⟨token, others, rfl, noText, noHole⟩

theorem leavesLine_of_line {depth : Nat} {value : Line}
    (read : line depth tokens = .read value rest) :
    ∃ following more, rest = following :: more ∧ LeavesLine following := by
  cases tokens with
  | nil => cases read
  | cons token others =>
    obtain ⟨nodes, later, -⟩ := Outcome.read_of_map read
    exact leavesLine_of_parts depth later

theorem leavesLine_of_moreLines (depth : Nat) {lines : List Line}
    (start : ∃ following more, tokens = following :: more ∧ LeavesLine following)
    (read : moreLines depth tokens = .read lines rest) :
    ∃ following more, rest = following :: more ∧ LeavesLine following ∧
      following.kind ≠ .lineBreak := by
  induction depth generalizing tokens lines with
  | zero => cases read
  | succ depth ih =>
    obtain ⟨token, others, rfl, leaves⟩ := start
    simp only [moreLines] at read
    split at read
    · obtain ⟨next, middle, readLine, behind⟩ := Outcome.read_of_andThen read
      obtain ⟨lines, later, -⟩ := Outcome.read_of_map behind
      exact ih (leavesLine_of_line readLine) later
    · rename_i unbroken
      cases read
      exact ⟨token, others, rfl, leaves, unbroken⟩

/-- A template refuses a token of a hole. Outside holes it could only be one that belongs inside. -/
theorem template_refused {depth : Nat} (enough : tokens.length < depth)
    (refused : template depth tokens = .refused found expected) :
    (StandsInHole tokens found ∧ expected ∈ expectedInHoles) ∨
      ∃ before behind, tokens = before ++ found :: behind ∧ holeOpen false before = false ∧
        found.kind.isInner = true := by
  rcases Outcome.refused_of_andThen refused with inLine | ⟨first, middle, read, behind⟩
  · exact .inl (line_refused enough inLine)
  have start := leavesLine_of_line read
  obtain ⟨parts, following, more, -, rfl, -⟩ := line_sound read
  rw [List.length_append] at enough
  rcases Outcome.refused_of_andThen behind with inLines | ⟨others, after, readLines, behind⟩
  · obtain ⟨stands, known⟩ := moreLines_refused depth (by omega) inLines
    exact .inl ⟨stands.behind (holeOpen_parts parts), known⟩
  · obtain ⟨lines, -, -, -, same, -⟩ := moreLines_sound depth readLines
    obtain ⟨token, rest, rfl, ⟨noText, noHole⟩, unbroken⟩ :=
      leavesLine_of_moreLines depth start readLines
    have unended := Outcome.refused_of_map behind
    rw [ended] at unended
    split at unended
    · cases unended
    · rename_i goesOn
      cases unended
      refine .inr ⟨parts.flatMap Part.tokens ++ lines.flatMap NextLine.tokens, rest, ?_, ?_, ?_⟩
      · rw [same, List.append_assoc]
      · rw [holeOpen_append, holeOpen_parts, holeOpen_lines]
      · unfold TokenKind.isInner
        split <;> first | rfl | contradiction

end Eager

/-- Of the tokens of a text, whether they are complete or not, none is refused outside a hole. -/
theorem refusedInHole_of_template {text : String} {depth : Nat} {found : Token}
    {expected : Expectation} (enough : (scan text).tokens.length < depth)
    (refused : Eager.template depth (scan text).tokens = .refused found expected) :
    RefusedInHole (scan text).tokens found expected := by
  rcases Eager.template_refused enough refused with
    ⟨stands, known⟩ | ⟨before, behind, split, closed, inner⟩
  · refine ⟨stands, ?_, known⟩
    obtain ⟨before, behind, split, opened⟩ := stands
    have inner := Scanner.isInner_eq_of_scan split
    rw [opened] at inner
    generalize found.kind = kind at inner ⊢
    cases kind <;> revert inner <;> decide
  · rw [Scanner.isInner_eq_of_scan split, closed] at inner
    cases inner

/-- What a run over the tokens of a text can fail with: a part of the text that cannot be read, or a
token of a hole. -/
inductive CanFail (tokens : List Token) : Failure → Prop where
  | unreadable (cause : LexicalCause) (position : Position)
      (possible : ∀ c, cause ≠ .strayInText c) : CanFail tokens (.template (.lexical cause position))
  | numberTooLong (digits : Nat) : CanFail tokens (.numberTooLong digits)
  | refused {found : Token} {expected : Expectation}
      (inHole : RefusedInHole tokens found expected) :
      CanFail tokens (.template (.grammar found expected))

theorem canFail_of_scan {scanner : Scanner} {failure : Failure} (tokens : List Token)
    (failed : scanner.scan.failure = some failure) : CanFail tokens failure := by
  cases Scanner.isLexical_of_scan failed with
  | cause cause position =>
    refine .unreadable cause position ?_
    rintro c rfl
    exact Scanner.scan_ne_strayInText scanner c position failed
  | numberTooLong digits => exact .numberTooLong digits

/-- Tokens run out only where the text cannot be read any further. -/
theorem canFail_of_run {text : String} {failure : Failure} {rest : TokenStream}
    (ran : Parser.template (text.toList.length + 2) (.ofText text) = .error failure rest) :
    CanFail (scan text).tokens failure := by
  have bound := Parser.scan_length_lt text
  have alike := Parser.agree_template bound bound (.ofText text) (TokenStream.ofText_ahead text)
  rw [ran] at alike
  generalize outcome : Eager.template (text.toList.length + 2) (scan text).tokens = eager at alike
  cases alike with
  | refused known ahead => exact .refused (refusedInHole_of_template bound outcome)
  | starved unended ahead =>
    show CanFail (scan text).tokens ((scan text).failure.getD .noMoreTokens)
    cases failed : (scan text).failure with
    | some failure => exact canFail_of_scan _ failed
    | none => exact absurd (Scanner.endsInput_of_scan Mode.noConfusion failed) unended

theorem canFail_settle {tokens : List Token} {failure : Failure} (rest : TokenStream)
    (possible : CanFail tokens failure) : CanFail tokens (Parser.settle failure rest) := by
  unfold Parser.settle
  split
  · cases failed : rest.scanner.scan.failure with
    | some failure => exact canFail_of_scan tokens failed
    | none => exact possible
  · exact possible

/-- No scanner meets a character outside holes that is not read. A run never asks for a token behind the
end of the input, and the grammar is violated inside holes only, at a token that stands there: an opening
brace, and the name and the parenthesis of a call, have been seen before they are required, and a line
leaves only its end behind. This holds of the run itself, and of the parse, for which the rest of the
text is read after a violation. -/
theorem failures_of_run (text : String) :
    (∀ (scanner : Scanner) (c : Char) (position : Position),
      scanner.pull ≠ .failed (.template (.lexical (.strayInText c) position))) ∧
    (∀ failure rest,
      Parser.template (text.toList.length + 2) (.ofText text) = .error failure rest →
      CanFail (scan text).tokens failure) ∧
    ∀ failure, parse text = .error failure → CanFail (scan text).tokens failure := by
  refine ⟨Scanner.pull_ne_strayInText, fun failure rest => canFail_of_run, fun failure failed => ?_⟩
  unfold parse at failed
  cases ran : Parser.template (text.toList.length + 2) (.ofText text) with
  | ok template rest =>
    rw [Parser.outcome_of_ok ran] at failed
    cases failed
  | error found rest =>
    rw [Parser.outcome_of_error ran] at failed
    cases failed
    exact canFail_settle rest (canFail_of_run ran)

theorem failures_of_run_danglingPipe :
    parse "\x7ba|\x7d" = .error (.template (.grammar ⟨.closeHole, "\x7d", ⟨3, 1, 4⟩⟩ .argument)) ∧
      CanFail (scan "\x7ba|\x7d").tokens
        (.template (.grammar ⟨.closeHole, "\x7d", ⟨3, 1, 4⟩⟩ .argument)) := by
  have failed : parse "\x7ba|\x7d" =
      .error (.template (.grammar ⟨.closeHole, "\x7d", ⟨3, 1, 4⟩⟩ .argument)) := by cbv
  exact ⟨failed, (failures_of_run _).2.2 _ failed⟩

end Stencil
