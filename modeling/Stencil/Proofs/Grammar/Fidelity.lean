import Stencil.Proofs.Culprit.Location
import Stencil.Proofs.Grammar.Landmarks
import Stencil.Proofs.Grammar.WellFormed

/-! What a tree keeps of its text. It has a line for every line of the text, at the place where that
line starts, and in every line the nodes stand in the order and at the places of what they were read
from. -/

namespace Stencil

open Grammar

/-! ### Line breaks -/

theorem lineBreaks_append (front back : List Token) :
    lineBreaks (front ++ back) = lineBreaks front ++ lineBreaks back :=
  List.filter_append front back

namespace Grammar

theorem Chain.lineBreaks_tokens (chain : Chain) : lineBreaks chain.tokens = [] := by
  apply List.filter_eq_nil_iff.mpr
  intro token member
  have between := chain.isBetweenBraces_of_mem member
  rw [decide_eq_true_eq]
  rintro broken
  rw [broken] at between
  cases between

theorem lineBreaks_flatMap {α : Type} {tokens : α → List Token}
    (none : ∀ item, lineBreaks (tokens item) = []) (items : List α) :
    lineBreaks (items.flatMap tokens) = [] := by
  induction items with
  | nil => rfl
  | cons item rest ih => rw [List.flatMap_cons, lineBreaks_append, none, ih, List.append_nil]

theorem Part.lineBreaks_tokens : (part : Part) → lineBreaks part.tokens = []
  | .text ⟨⟨_, _, _⟩, rfl⟩ => rfl
  | .hole ⟨⟨⟨_, _, _⟩, rfl⟩, chain, ⟨⟨_, _, _⟩, rfl⟩⟩ => by
    refine (lineBreaks_append chain.tokens _).trans ?_
    rw [chain.lineBreaks_tokens]
    rfl

theorem NextLine.lineBreaks_tokens : (next : NextLine) → lineBreaks next.tokens = [next.mark.token]
  | ⟨⟨⟨_, _, _⟩, rfl⟩, parts⟩ =>
    congrArg (_ :: ·) (lineBreaks_flatMap Part.lineBreaks_tokens parts)

theorem lineBreaks_nextLines (others : List NextLine) :
    lineBreaks (others.flatMap NextLine.tokens) = others.map (·.mark.token) := by
  induction others with
  | nil => rfl
  | cons next others ih =>
    rw [List.flatMap_cons, lineBreaks_append, next.lineBreaks_tokens, ih]
    rfl

theorem Derivation.lineBreaks_tokens (derivation : Derivation) :
    lineBreaks derivation.tokens = derivation.others.map (·.mark.token) := by
  obtain ⟨first, others, ⟨last, known⟩⟩ := derivation
  have unbroken : lineBreaks [last] = [] := by simp [lineBreaks, known]
  rw [Derivation.tokens, lineBreaks_append, lineBreaks_append,
    lineBreaks_flatMap Part.lineBreaks_tokens, lineBreaks_nextLines, unbroken, List.append_nil,
    List.nil_append]

/-! ### Where lines start -/

/-- A line starts where its first token does, or the token behind it. -/
theorem exists_first (parts : List Part) (others : List NextLine) (last : Terminal .endOfInput) :
    ∃ token rest, parts.flatMap Part.tokens ++ (others.flatMap NextLine.tokens ++ [last.token]) =
      token :: rest ∧ (line parts (following others last.token)).position = token.position := by
  cases parts with
  | nil =>
    obtain ⟨-, behind⟩ := following_spec others last
    obtain ⟨rest, tokens⟩ := behind []
    exact ⟨_, rest, tokens, rfl⟩
  | cons part more =>
    obtain ⟨token, inner, tokens, -⟩ := part.exists_cons
    rw [line, List.flatMap_cons, tokens]
    exact ⟨token, _, rfl, rfl⟩

theorem positions_nextLines (others : List NextLine) (last : Terminal .endOfInput)
    (chain : (others.flatMap NextLine.tokens ++ [last.token]).IsChain fun first second =>
      first.kind = .lineBreak → second.position = first.ending) :
    (nextLines last.token others).map Line.position = others.map (·.mark.token.ending) := by
  induction others with
  | nil => rfl
  | cons next others ih =>
    rw [List.flatMap_cons, NextLine.tokens, List.cons_append, List.cons_append, List.append_assoc,
      List.isChain_cons] at chain
    obtain ⟨broken, later⟩ := chain
    obtain ⟨token, rest, tokens, start⟩ := exists_first next.parts others last
    rw [nextLines, List.map_cons, List.map_cons, ih later.right_of_append, start,
      broken token (by rw [tokens]; rfl) next.mark.known]

end Grammar

/-- A place in a text, counted exactly. -/
def Position.IsIn (position : Position) (text : String) : Prop :=
  ∃ before after, text.toList = before ++ after ∧ position = .behind before

/-- A tree with the lines of a text, each of which starts where the line break in front of it ends. Every
landmark is read from a token that stands at its place, and they stand in the order of the tree. -/
structure Template.IsFaithful (template : Template) (text : String) : Prop where
  count : template.lines.length = (lineBreaks (scan text).tokens).length + 1
  lines : ∀ line ∈ template.lines, line.IsWellFormed
  starts : template.lines.map Line.position =
    .start :: (lineBreaks (scan text).tokens).map Token.ending
  placed : ∀ line ∈ template.lines, line.position.IsIn text
  read : ∀ landmark ∈ template.landmarks, ∃ token ∈ (scan text).tokens,
    token.Shows landmark ∧ token.IsAnchored (StandsIn text)
  ordered : template.landmarks.Pairwise fun first second =>
    first.position.offset < second.position.offset

theorem StandsIn.isIn_ending {text : String} {token : Token}
    (stands : StandsIn text token.lexeme token.position) : token.ending.IsIn text := by
  obtain ⟨before, after, cut, place, -⟩ := stands
  refine ⟨before ++ token.lexeme.toList, after, ?_, ?_⟩
  · rw [cut, List.append_assoc]
  · rw [Token.ending, place, Position.behind_after]

theorem positions_of_derivation {text : String} {derivation : Derivation}
    (scanned : (scan text).tokens = derivation.tokens) :
    derivation.template.lines.map Line.position =
      .start :: (lineBreaks (scan text).tokens).map Token.ending := by
  obtain ⟨parts, others, last⟩ := derivation
  have chain := Scanner.isChain_scan (.ofText text.toList)
  rw [← scan, scanned, Derivation.tokens] at chain
  obtain ⟨token, rest, tokens, start⟩ := exists_first parts others last
  have first : token.position = .start := Scanner.position_of_scan (scanned.trans tokens)
  rw [Derivation.template, List.map_cons, start, first,
    positions_nextLines others last chain.right_of_append, scanned, Derivation.lineBreaks_tokens,
    List.map_map]
  rfl

/-- The tree of a text is faithful to it: a line for every line break and one more, each of them
well-formed, and all places those of the text. -/
theorem isFaithful_of_parse {text : String} {template : Template}
    (parsed : parse text = .ok template) : template.IsFaithful text := by
  obtain ⟨derivation, tokenized, rfl⟩ := Parser.exists_derivation_of_parse parsed
  have scanned : (scan text).tokens = derivation.tokens :=
    congrArg Scan.tokens (scan_of_tokenize tokenized)
  have starts := positions_of_derivation scanned
  refine ⟨?_, (isWellFormed_of_parse parsed).2, starts, ?_, ?_, ?_⟩
  · simpa using congrArg List.length starts
  · intro line member
    have place := List.mem_map_of_mem (f := Line.position) member
    rw [starts] at place
    rcases List.mem_cons.mp place with first | later
    · exact ⟨[], text.toList, rfl, first.trans Position.start_eq_behind⟩
    · obtain ⟨token, broken, ending⟩ := List.mem_map.mp later
      rw [← ending]
      exact ((standsIn_of_scan text).1 token (List.mem_of_mem_filter broken)).isIn_ending
  · intro landmark member
    rw [derivation.landmarks_template, ← scanned] at member
    obtain ⟨token, found, shows⟩ := exists_shows member
    exact ⟨token, found, shows, isAnchored_of_scan found⟩
  · rw [derivation.landmarks_template, ← scanned]
    exact pairwise_landmarks (Scanner.pairwise_offset_scan _) true

/-- A line end of two characters, a call with a quoted quote piped into it, and an empty last line. -/
def quotedPipe : String := "a\r\n\x7b'it''s' | f(1, x)\x7db\n"

def quotedPipeTree : Template where
  lines :=
    [⟨[.text "a" ⟨0, 1, 1⟩], ⟨0, 1, 1⟩⟩,
     ⟨[.pipe (.constant (.text "it's") ⟨4, 2, 2⟩)
        (.call "f" [.constant (.integer 1) ⟨16, 2, 14⟩, .property "x" ⟨19, 2, 17⟩] ⟨14, 2, 12⟩)
        ⟨12, 2, 10⟩, .text "b" ⟨22, 2, 20⟩], ⟨3, 2, 1⟩⟩,
     ⟨[.text "" ⟨24, 3, 1⟩], ⟨24, 3, 1⟩⟩]

theorem isFaithful_of_parse_quotedPipe :
    parse quotedPipe = .ok quotedPipeTree ∧ quotedPipeTree.IsFaithful quotedPipe ∧
    quotedPipeTree.landmarks.map (·.position.offset) = [0, 4, 12, 14, 16, 19, 22, 24] := by
  have parsed : parse quotedPipe = .ok quotedPipeTree := by cbv
  exact ⟨parsed, isFaithful_of_parse parsed, rfl⟩

end Stencil
