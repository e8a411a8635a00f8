import Mathlib
import Stencil.Proofs.Evaluation.Shape
import Stencil.Proofs.Grammar.WellFormed
import Stencil.Proofs.Printing.Template

/-! Printing what has been parsed. The printed text has as many lines, but a line that ends in a
carriage return loses it to the line feed printed behind it. Where there is no such line, nothing
changes. -/

namespace Stencil

theorem length_normalizedLines (lines : List Line) :
    (normalizedLines lines).length = lines.length := by
  induction lines with
  | nil => rfl
  | cons line rest ih =>
    cases rest with
    | nil => rfl
    | cons next rest => exact congrArg (· + 1) ih

theorem shape_normalizedLines_iff (lines : List Line) :
    (normalizedLines lines).map Line.shape = lines.map Line.shape ↔
      ∀ line ∈ lines.dropLast, ¬line.EndsInReturn := by
  induction lines with
  | nil => simp [normalizedLines]
  | cons line rest ih =>
    cases rest with
    | nil => simp [normalizedLines]
    | cons next rest =>
      rw [normalizedLines, List.map_cons, List.map_cons, List.cons_eq_cons, ih,
        Line.shape_withoutReturn_iff, List.dropLast_cons_of_ne_nil (List.cons_ne_nil next rest),
        List.forall_mem_cons]

theorem shape_normalized_iff (template : Template) :
    template.normalized.shape = template.shape ↔
      ∀ line ∈ template.lines.dropLast, ¬line.EndsInReturn := by
  rw [← shape_normalizedLines_iff]
  exact ⟨congrArg Template.lines, congrArg Template.mk⟩

/-- The source of a parsed template is parsed again, and to as many lines. They are those of the
template exactly if none but the last ends in a carriage return, and are rendered alike then. -/
theorem parse_source_of_parse {text : String} {template : Template}
    (parsed : parse text = .ok template) :
    ∃ again, parse template.source = .ok again ∧
      again.shape = template.normalized.shape ∧
      again.lines.length = template.lines.length ∧
      (again.shape = template.shape ↔ ∀ line ∈ template.lines.dropLast, ¬line.EndsInReturn) ∧
      ((∀ line ∈ template.lines.dropLast, ¬line.EndsInReturn) →
        ∀ (self : Evaluator) (source : Source),
          (self.render again source).Agrees (self.render template source)) := by
  obtain ⟨nonempty, valid⟩ := isWellFormed_of_parse parsed
  obtain ⟨again, reparsed, shape⟩ := parse_source nonempty valid
  have unchanged : again.shape = template.shape ↔
      ∀ line ∈ template.lines.dropLast, ¬line.EndsInReturn := by
    rw [shape, shape_normalized_iff]
  have count : again.lines.length = template.lines.length := by
    have same := congrArg (fun found => found.lines.length) shape
    simp only [Template.shape, Template.moved, List.length_map] at same
    rw [same, Template.normalized, length_normalizedLines]
  exact ⟨again, reparsed, shape, count, unchanged, fun kept self source =>
    self.render_agrees source (unchanged.mpr kept)⟩

/-- A carriage return inside a line and one at the end of the last line are kept. -/
theorem parse_source_of_parse_returns :
    ∃ template again, parse "a\rb\r\n\x7bx\x7d\r" = .ok template ∧
      parse template.source = .ok again ∧ again.shape = template.shape ∧
      ∀ (self : Evaluator) (source : Source),
        (self.render again source).Agrees (self.render template source) := by
  have parsed : parse "a\rb\r\n\x7bx\x7d\r" = .ok
      ⟨[⟨[.text "a\rb" ⟨0, 1, 1⟩], ⟨0, 1, 1⟩⟩,
        ⟨[.property "x" ⟨6, 2, 2⟩, .text "\r" ⟨8, 2, 4⟩], ⟨5, 2, 1⟩⟩]⟩ := by cbv
  obtain ⟨again, reparsed, -, -, unchanged, alike⟩ := parse_source_of_parse parsed
  exact ⟨_, again, parsed, reparsed, unchanged.mpr (by decide), alike (by decide)⟩

/-- A carriage return before a line end is lost. -/
theorem parse_source_drops_return :
    ∃ template again, parse "a\r\r\nb" = .ok template ∧ parse template.source = .ok again ∧
      again.shape ≠ template.shape ∧ template.source = "a\r\nb" ∧ again.source = "a\nb" := by
  refine ⟨⟨[⟨[.text "a\r" ⟨0, 1, 1⟩], ⟨0, 1, 1⟩⟩, ⟨[.text "b" ⟨4, 2, 1⟩], ⟨4, 2, 1⟩⟩]⟩,
    ⟨[⟨[.text "a" ⟨0, 1, 1⟩], ⟨0, 1, 1⟩⟩, ⟨[.text "b" ⟨3, 2, 1⟩], ⟨3, 2, 1⟩⟩]⟩, by cbv, by cbv, ?_,
    by decide, by decide⟩
  simp [Template.shape, Template.moved, Line.moved, Node.moved]

end Stencil
