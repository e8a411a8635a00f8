import Stencil.Function.Builtin
import Stencil.Proofs.Printing.Normalization
import Stencil.Proofs.Text.LineEnds

/-! Texts without holes. Cut at its line feeds, such a text is the source of lines that hold one text
each, so it is read as these lines without the carriage returns at their ends, and every line is shown
as it stands. -/

namespace Stencil

open Text

/-- A line that shows some letters and nothing else. -/
def Line.verbatim (letters : List Char) : Line :=
  ⟨[.text (String.ofList letters) .unknown], .unknown⟩

namespace Line

theorem toList_source_verbatim (letters : List Char) : (verbatim letters).source.toList = letters := by
  simp [toList_source_line, verbatim, partsText, Node.partSources]

theorem isWellFormed_verbatim {letters : List Char}
    (unbroken : ∀ c ∈ letters, c ≠ '\x7b' ∧ c ≠ '\n') : (verbatim letters).IsWellFormed := by
  cases letters with
  | nil => exact .inl ⟨.unknown, rfl⟩
  | cons c rest =>
    have plain : IsPlain (String.ofList (c :: rest)).toList :=
      ⟨by simp, by rwa [String.toList_ofList]⟩
    exact .inr ⟨List.cons_ne_nil _ _, plain, by simp, trivial⟩

theorem withoutReturn_verbatim (letters : List Char) :
    (verbatim letters).withoutReturn = verbatim (Text.withoutReturn letters) := by
  simp only [Line.withoutReturn, verbatim, List.getLast?_singleton, String.toList_ofList,
    List.dropLast_singleton, List.nil_append, Node.literal, Text.withoutReturn]
  split
  · split
    next empty => rw [empty]; rfl
    next => rfl
  · rfl

end Line

theorem normalizedLines_verbatim (pieces : List (List Char)) :
    normalizedLines (pieces.map Line.verbatim) = (withoutReturns pieces).map Line.verbatim := by
  induction pieces with
  | nil => rfl
  | cons piece others ih =>
    cases others with
    | nil => rfl
    | cons next rest =>
      simp only [List.map_cons, normalizedLines, withoutReturns, Line.withoutReturn_verbatim] at ih ⊢
      rw [ih]

theorem linesText_verbatim (pieces : List (List Char)) :
    linesText (pieces.map Line.verbatim) = ['\n'].intercalate pieces := by
  induction pieces with
  | nil => rfl
  | cons piece others ih =>
    cases others with
    | nil => simp [linesText, Line.toList_source_verbatim]
    | cons next rest =>
      rw [List.intercalate_cons_cons, ← ih]
      simp [linesText, Line.toList_source_verbatim]

/-- What is written depends on the shape alone. -/
theorem Template.source_shape (template : Template) : template.shape.source = template.source := by
  have same : template.shape.toNode = template.toNode.shape := by
    simp only [Template.toNode, Template.shape, Template.moved, Node.shape, Node.moved, Node.movedAll_eq_map,
      List.map_map]
    exact congrArg Node.template (List.map_congr_left fun line _ => line.toNode_shape)
  rw [Template.source, same, Node.shape, Node.source_moved, Template.source]

namespace Evaluator

variable (self : Evaluator) (source : Source)

theorem renderLine_verbatim (letters : List Char) :
    self.renderLine source (Line.verbatim letters) = .ok (String.ofList letters) := by
  have shown : showTexts 0 [some (String.ofList letters)] = .ok (String.ofList letters ++ "") := rfl
  rw [String.append_empty] at shown
  exact shown

theorem renderLines_verbatim (pieces : List (List Char)) :
    self.renderLines source (pieces.map Line.verbatim) = ⟨pieces.map String.ofList, none⟩ := by
  induction pieces with
  | nil => rfl
  | cons piece others ih =>
    rw [List.map_cons, renderLines_of_ok (self.renderLine_verbatim source piece), ih]
    rfl

end Evaluator

theorem Rendering.eq_of_agrees {rendering : Rendering} {lines : List String}
    (agrees : rendering.Agrees ⟨lines, none⟩) : rendering = ⟨lines, none⟩ := by
  obtain ⟨shown, failure⟩ := rendering
  obtain ⟨rfl, complete⟩ := agrees
  cases failure with
  | none => rfl
  | some failure => cases complete

/-- The pieces of a text between its line feeds, as lines. -/
def verbatim (text : List Char) : Template := ⟨(text.splitOn '\n').map Line.verbatim⟩

theorem source_verbatim (text : String) : (verbatim text.toList).source = text := by
  apply String.toList_injective
  rw [toList_source_template, verbatim, linesText_verbatim, List.intercalate_splitOn]

theorem lines_normalized_verbatim (text : List Char) :
    (verbatim text).normalized.lines = (lines text).map Line.verbatim := by
  rw [Template.normalized, verbatim, normalizedLines_verbatim, lines_eq_withoutReturns]

/-- A text without holes is read. Every source, registry and options show its lines as they stand, and
it is written again with line feeds for its line ends. -/
theorem exists_verbatim_of_holeless {text : String} (holeless : '\x7b' ∉ text.toList) :
    ∃ template, parse text = .ok template ∧
      (∀ (self : Evaluator) (source : Source), self.render template source =
        ⟨(lines text.toList).map String.ofList, none⟩) ∧
      template.source = replaceText "\r\n" "\n" text := by
  have nonempty : (verbatim text.toList).lines ≠ [] :=
    mt List.map_eq_nil_iff.mp (List.splitOn_ne_nil _ _)
  have valid : ∀ line ∈ (verbatim text.toList).lines, line.IsWellFormed := by
    intro line member
    obtain ⟨piece, cut, rfl⟩ := List.mem_map.mp member
    apply Line.isWellFormed_verbatim
    intro c inside
    obtain ⟨among, different⟩ := mem_and_ne_of_mem_splitOn cut inside
    exact ⟨fun same => holeless (same ▸ among), different⟩
  obtain ⟨template, parsed, shape⟩ := parse_source nonempty valid
  rw [source_verbatim] at parsed
  refine ⟨template, parsed, fun self source => ?_, ?_⟩
  · apply Rendering.eq_of_agrees
    rw [← self.renderLines_verbatim source (lines text.toList), ← lines_normalized_verbatim]
    exact self.render_agrees source shape
  · apply String.toList_injective
    rw [← template.source_shape, shape, Template.source_shape, toList_source_template,
      lines_normalized_verbatim, linesText_verbatim, intercalate_lines, replaceText,
      String.toList_ofList]
    rfl

/-- A lone carriage return, one in front of a line end, a brace and an empty last line. -/
theorem exists_verbatim_of_holeless_returns :
    '\x7b' ∉ "\r\r\na\x7d\n\rb\r\n".toList ∧
    ∃ template, parse "\r\r\na\x7d\n\rb\r\n" = .ok template ∧
      (∀ (self : Evaluator) (source : Source),
        self.render template source = ⟨["\r", "a\x7d", "\rb", ""], none⟩) ∧
      template.source = "\r\na\x7d\n\rb\n" := by
  have holeless : '\x7b' ∉ "\r\r\na\x7d\n\rb\r\n".toList := by decide
  obtain ⟨template, parsed, shown, written⟩ := exists_verbatim_of_holeless holeless
  exact ⟨holeless, template, parsed, shown, written⟩

end Stencil
