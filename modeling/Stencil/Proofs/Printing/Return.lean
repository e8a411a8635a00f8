import Stencil.Node.Parse
import Stencil.Proofs.Printing.Line

/-! Carriage returns at the ends of lines. One that is printed before a line feed is read as a part
of the line end, so that the line is read without it. -/

namespace Stencil

/-- A text of some characters, where there are any. -/
def Node.literal (letters : List Char) (position : Position) : List Node :=
  if letters = [] then [] else [.text (String.ofList letters) position]

/-- A line without the carriage return at its end. -/
def Line.withoutReturn (line : Line) : Line :=
  match line.parts.getLast? with
  | some (.text value position) =>
    if value.toList.getLast? = some '\r' then
      Parser.lineOf line.position
        (line.parts.dropLast ++ Node.literal value.toList.dropLast position)
    else line
  | _ => line

/-- The lines as they are read when each is printed with a line feed before the next. -/
def normalizedLines : List Line → List Line
  | [] => []
  | [last] => [last]
  | line :: next :: rest => line.withoutReturn :: normalizedLines (next :: rest)

def Template.normalized (template : Template) : Template := ⟨normalizedLines template.lines⟩

namespace Node

theorem areParts_of_append {front back : List Node} (valid : AreParts (front ++ back)) :
    AreParts front := by
  induction front with
  | nil => trivial
  | cons node rest ih =>
    rw [List.cons_append] at valid
    obtain ⟨part, single, others⟩ := valid
    refine ⟨part, fun next member => single next ?_, ih others⟩
    rw [List.head?_append, Option.mem_def.mp member, Option.some_or]
    rfl

/-- The text at the end of some parts can be replaced by another one. -/
theorem areParts_append_text {front : List Node} {value other : String}
    {position place : Position} (valid : AreParts (front ++ [.text value position]))
    (plain : IsPlain other.toList) : AreParts (front ++ [.text other place]) := by
  induction front with
  | nil => exact ⟨plain, by simp, trivial⟩
  | cons node rest ih =>
    rw [List.cons_append] at valid ⊢
    obtain ⟨part, single, others⟩ := valid
    refine ⟨part, ?_, ih others⟩
    cases rest with
    | nil =>
      intro next member literal
      exact absurd (single _ rfl literal) Bool.noConfusion
    | cons first more => exact single

theorem areParts_append_literal {front : List Node} {value : String} {position : Position}
    {letters : List Char} (place : Position) (valid : AreParts (front ++ [.text value position]))
    (unbroken : ∀ c ∈ letters, c ≠ '\x7b' ∧ c ≠ '\n') :
    AreParts (front ++ literal letters place) := by
  unfold literal
  split
  · rw [List.append_nil]
    exact areParts_of_append valid
  · rename_i nonempty
    exact areParts_append_text valid (by simpa using ⟨nonempty, unbroken⟩)

theorem isPart_of_append {front : List Node} {node : Node} (valid : AreParts (front ++ [node])) :
    node.IsPart := by
  induction front with
  | nil => exact valid.1
  | cons first rest ih => exact ih valid.2.2

end Node

theorem partsText_append (front back : List Node) :
    partsText (front ++ back) = partsText front ++ partsText back := by
  induction front with
  | nil => rfl
  | cons node rest ih =>
    cases literal : node.isText with
    | false =>
      rw [List.cons_append, partsText_hole literal, partsText_hole literal, ih]
      simp
    | true =>
      obtain ⟨value, position, rfl⟩ := Node.exists_of_isText literal
      rw [List.cons_append, partsText_text, partsText_text, ih, List.append_assoc]

theorem partsText_literal (letters : List Char) (position : Position) :
    partsText (Node.literal letters position) = letters := by
  unfold Node.literal
  split
  · rename_i empty
    exact empty.symm
  · simp [partsText, Node.partSources]

theorem partsText_lineOf (start : Position) (parts : List Node) :
    partsText (Parser.lineOf start parts).parts = partsText parts := by
  cases parts with
  | nil => rfl
  | cons => rfl

namespace Line

variable {line : Line}

theorem withoutReturn_eq_self (plain : ¬line.EndsInReturn) : line.withoutReturn = line := by
  unfold withoutReturn
  split
  · rename_i value position last
    rw [EndsInReturn, lastText, last] at plain
    exact if_neg plain
  · rfl

theorem exists_of_endsInReturn (returned : line.EndsInReturn) :
    ∃ (front : List Node) (letters : List Char) (position : Position),
      line.parts = front ++ [.text (String.ofList (letters ++ ['\r'])) position] ∧
      line.withoutReturn =
        Parser.lineOf line.position (front ++ Node.literal letters position) := by
  unfold EndsInReturn lastText at returned
  split at returned
  · rename_i value position last
    obtain ⟨front, parts⟩ := List.getLast?_eq_some_iff.mp last
    obtain ⟨letters, spelled⟩ := List.getLast?_eq_some_iff.mp returned
    refine ⟨front, letters, position, ?_, ?_⟩
    · rw [parts, ← spelled, String.ofList_toList]
    · rw [withoutReturn, last]
      simp only [returned, if_true]
      rw [parts, spelled, List.dropLast_concat, List.dropLast_concat]
  · cases returned

theorem toList_source_of_endsInReturn (returned : line.EndsInReturn) :
    line.source.toList = line.withoutReturn.source.toList ++ ['\r'] := by
  obtain ⟨front, letters, position, parts, same⟩ := exists_of_endsInReturn returned
  rw [toList_source_line, toList_source_line, same, parts, partsText_lineOf, partsText_append,
    partsText_append, partsText_literal, partsText_text]
  simp [partsText, Node.partSources]

theorem isWellFormed_withoutReturn (valid : line.IsWellFormed) :
    line.withoutReturn.IsWellFormed := by
  by_cases returned : line.EndsInReturn
  · obtain ⟨front, letters, position, parts, same⟩ := exists_of_endsInReturn returned
    rcases valid with ⟨place, empty⟩ | ⟨-, valid⟩
    · rw [EndsInReturn, lastText, empty] at returned
      cases returned
    · rw [parts] at valid
      have plain : IsPlain (String.ofList (letters ++ ['\r'])).toList := Node.isPart_of_append valid
      rw [String.toList_ofList] at plain
      have unbroken : ∀ c ∈ letters, c ≠ '\x7b' ∧ c ≠ '\n' := fun c member =>
        plain.unbroken c (List.mem_append_left _ member)
      have areParts := Node.areParts_append_literal position valid unbroken
      rw [same]
      cases kept : front ++ Node.literal letters position with
      | nil => exact .inl ⟨line.position, rfl⟩
      | cons first rest =>
        rw [kept] at areParts
        exact .inr ⟨List.cons_ne_nil first rest, areParts⟩
  · rwa [withoutReturn_eq_self returned]

/-- Only a line with a carriage return at its end changes its shape. -/
theorem shape_withoutReturn_iff : line.withoutReturn.shape = line.shape ↔ ¬line.EndsInReturn := by
  refine ⟨fun same returned => ?_, fun plain => by rw [withoutReturn_eq_self plain]⟩
  have longer := toList_source_of_endsInReturn returned
  rw [← source_shape, ← same, source_shape] at longer
  simpa using congrArg List.length longer

end Line

end Stencil
