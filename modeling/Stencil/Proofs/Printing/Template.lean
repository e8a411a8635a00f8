import Stencil.Proofs.Grammar.Acceptance
import Stencil.Proofs.Printing.Return

/-! What the source of a template is read as: its lines, but for carriage returns at their ends. A
well-formed template has none of these where another line follows, so it comes back as it was. -/

namespace Stencil

open Grammar

/-- Lines with a line feed between any two. -/
def linesText : List Line → List Char
  | [] => []
  | [last] => last.source.toList
  | line :: next :: rest => line.source.toList ++ '\n' :: linesText (next :: rest)

theorem toList_source_template (template : Template) :
    template.source.toList = linesText template.lines := by
  obtain ⟨lines⟩ := template
  simp only [Template.source, Template.toNode, Node.source]
  induction lines with
  | nil => rfl
  | cons line rest ih =>
    cases rest with
    | nil => simp [Node.sources, linesText, Line.source]
    | cons next rest =>
      simp only [List.map_cons, Node.sources] at ih ⊢
      rw [String.intercalate_cons_cons, String.toList_append, String.toList_append, ih,
        List.append_assoc]
      rfl

/-- A line with the line feed behind it. The line feed takes a carriage return in front of it. -/
theorem emits_brokenLine {line : Line} (valid : line.IsWellFormed) (position : Position)
    (following : List Char) :
    ∃ (derivation : List Part) (mark : Terminal .lineBreak) (next : Position),
      Emits ⟨.text, position, line.source.toList ++ '\n' :: following⟩
        (derivation.flatMap Part.tokens ++ [mark.token]) ⟨.text, next, following⟩ ∧
      ∀ token, (Grammar.line derivation token).shape = line.withoutReturn.shape := by
  by_cases returned : line.EndsInReturn
  · have ends : endsText ('\r' :: '\n' :: following) = true := by simp [endsText]
    obtain ⟨derivation, middle, emits, shape⟩ :=
      emits_line (Line.isWellFormed_withoutReturn valid) position ends (fun _ => by simp)
    have mark := Emits.single ((Spells.returnLineFeed following).pulls middle)
    refine ⟨derivation, .spelled ['\r', '\n'] middle, middle.after ['\r', '\n'], ?_, shape⟩
    rw [Line.toList_source_of_endsInReturn returned, List.append_assoc]
    exact emits.append mark
  · have ends : endsText ('\n' :: following) = true := by simp [endsText]
    obtain ⟨derivation, middle, emits, shape⟩ :=
      emits_line valid position ends (fun absurd => (returned absurd).elim)
    have mark := Emits.single ((Spells.lineFeed following).pulls middle)
    refine ⟨derivation, .spelled ['\n'] middle, middle.after ['\n'], emits.append mark, ?_⟩
    rwa [Line.withoutReturn_eq_self returned]

theorem emits_lines (first : Line) (others : List Line)
    (valid : ∀ line ∈ first :: others, line.IsWellFormed) (position : Position) :
    ∃ (derivation : Derivation) (next : Position),
      Emits ⟨.text, position, linesText (first :: others)⟩ derivation.tokens
        ⟨.finished, next, []⟩ ∧
      derivation.template.shape = (Template.normalized ⟨first :: others⟩).shape := by
  induction others generalizing first position with
  | nil =>
    obtain ⟨parts, middle, emits, shape⟩ :=
      emits_line (valid first List.mem_cons_self) position (show endsText [] = true from rfl)
        (fun _ => by simp)
    have last := Emits.single (Spells.endOfInput.pulls middle)
    refine ⟨⟨parts, [], .spelled [] middle⟩, middle, ?_, ?_⟩
    · rw [List.append_nil] at emits
      exact emits.append last
    · exact congrArg (fun line => Template.mk [line]) (shape _)
  | cons next others ih =>
    obtain ⟨parts, mark, middle, emits, shape⟩ :=
      emits_brokenLine (valid first List.mem_cons_self) position (linesText (next :: others))
    obtain ⟨⟨nextParts, more, last⟩, behind, emitsOthers, shapes⟩ :=
      ih next (fun line member => valid line (List.mem_cons_of_mem first member)) middle
    refine ⟨⟨parts, ⟨mark, nextParts⟩ :: more, last⟩, behind, ?_, ?_⟩
    · have whole := emits.append emitsOthers
      simp only [Derivation.tokens, List.append_assoc, List.singleton_append] at whole
      simpa [Derivation.tokens, NextLine.tokens, linesText] using whole
    · have lines := congrArg Template.lines shapes
      apply congrArg Template.mk
      exact List.cons_eq_cons.mpr ⟨shape mark.token, lines⟩

/-- The source of lines that template text can stand for is read as these lines, without the
carriage returns at their ends. -/
theorem parse_source {template : Template} (nonempty : template.lines ≠ [])
    (valid : ∀ line ∈ template.lines, line.IsWellFormed) :
    ∃ parsed, parse template.source = .ok parsed ∧ parsed.shape = template.normalized.shape := by
  obtain ⟨lines⟩ := template
  cases lines with
  | nil => exact absurd rfl nonempty
  | cons first others =>
    obtain ⟨derivation, next, emits, shape⟩ := emits_lines first others valid .start
    rw [← toList_source_template ⟨first :: others⟩] at emits
    exact ⟨derivation.template, Parser.parse_of_derivation (emits.tokenize_eq rfl), shape⟩

theorem normalizedLines_eq_self {lines : List Line}
    (apart : ∀ line ∈ lines.dropLast, ¬line.EndsInReturn) : normalizedLines lines = lines := by
  induction lines with
  | nil => rfl
  | cons line rest ih =>
    cases rest with
    | nil => rfl
    | cons next rest =>
      rw [List.dropLast_cons_of_ne_nil (List.cons_ne_nil next rest)] at apart
      rw [normalizedLines, Line.withoutReturn_eq_self (apart line List.mem_cons_self),
        ih fun other member => apart other (List.mem_cons_of_mem line member)]

/-- Parsing undoes printing: the source of a well-formed template is read as a template of the
same shape. -/
theorem parse_source_of_isWellFormed {template : Template} (valid : template.IsWellFormed) :
    ∃ parsed, parse template.source = .ok parsed ∧ parsed.shape = template.shape := by
  obtain ⟨parsed, same, shape⟩ := parse_source valid.nonempty valid.lines
  rw [Template.normalized, normalizedLines_eq_self valid.apart] at shape
  exact ⟨parsed, same, shape⟩

/-- Quotes, braces and line ends inside a string, nested calls, pipes, a carriage return inside a
line and one at the end of the last line. -/
def intricate : Template :=
  ⟨[⟨[.text "a\r" .start,
      .pipe (.pipe (.constant (.text "it's \x7d\n") .start) (.property "f" .start) .start)
        (.call "g" [.constant (.integer 2147483647) .start, .call "h" [] .start] .start) .start,
      .text ")" .start], .start⟩,
    ⟨[.text "" .start], .start⟩,
    ⟨[.property "x" .start, .property "y" .start, .text "\r" .start], .start⟩]⟩

theorem isWellFormed_intricate : intricate.IsWellFormed where
  nonempty := by decide
  lines := by
    have plain : ∀ text ∈ ["a\r", ")", "\r"], IsPlain text.toList := by
      intro text member
      simp only [List.mem_cons, List.not_mem_nil, or_false] at member
      rcases member with rfl | rfl | rfl <;> exact ⟨by decide, by simp⟩
    have named : ∀ name ∈ ["f", "g", "h", "x", "y"], IsName name.toList := by
      intro name member
      simp only [List.mem_cons, List.not_mem_nil, or_false] at member
      rcases member with rfl | rfl | rfl | rfl | rfl <;> exact ⟨_, [], rfl, by decide, by simp⟩
    have arguments : Node.AreArguments
        [.constant (.integer 2147483647) .start, .call "h" [] .start] :=
      ⟨⟨by decide, by decide⟩, ⟨named _ (by simp), trivial⟩, trivial⟩
    intro line member
    simp only [intricate, List.mem_cons, List.not_mem_nil, or_false] at member
    rcases member with rfl | rfl | rfl
    · exact .inr ⟨by simp, plain _ (by simp), by simp [Node.isText],
        ⟨⟨trivial, named _ (by simp)⟩, named _ (by simp), arguments⟩, by simp [Node.isText],
        plain _ (by simp), by simp, trivial⟩
    · exact .inl ⟨.start, rfl⟩
    · exact .inr ⟨by simp, named _ (by simp), by simp [Node.isText], named _ (by simp),
        by simp [Node.isText], plain _ (by simp), by simp, trivial⟩
  apart := by decide

theorem parse_source_of_isWellFormed_intricate :
    intricate.source =
      "a\r\x7b'it''s \x7d\n' | f | g(2147483647, h())\x7d)\n\n\x7bx\x7d\x7by\x7d\r" ∧
    intricate.IsWellFormed ∧
    ∃ parsed, parse intricate.source = .ok parsed ∧ parsed.shape = intricate.shape :=
  ⟨by decide, isWellFormed_intricate, parse_source_of_isWellFormed isWellFormed_intricate⟩

end Stencil
