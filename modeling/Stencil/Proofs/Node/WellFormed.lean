import Stencil.Proofs.Node.Moved
import Stencil.Proofs.Token.Spelling

/-! Trees that template text can stand for. -/

namespace Stencil

namespace Node

mutual

/-- A constant that has a literal, a name, or a call of a name with such arguments. -/
def IsArgument : Node → Prop
  | constant (.integer value) _ => 0 ≤ value ∧ value ≤ greatestNumber
  | constant (.text _) _ => True
  | property name _ => IsName name.toList
  | call name arguments _ => IsName name.toList ∧ AreArguments arguments
  | _ => False

def AreArguments : List Node → Prop
  | [] => True
  | node :: rest => node.IsArgument ∧ AreArguments rest

end

/-- Pipes bind to the left, so only the left side of a pipe can be another one. -/
def IsExpression : Node → Prop
  | pipe left right _ => left.IsExpression ∧ right.IsArgument
  | node => node.IsArgument

def isText : Node → Bool
  | text _ _ => true
  | _ => false

/-- A text without holes and line ends, or the expression of a hole. -/
def IsPart : Node → Prop
  | text value _ => IsPlain value.toList
  | node => node.IsExpression

/-- No two texts stand next to each other. -/
def AreParts : List Node → Prop
  | [] => True
  | node :: rest =>
    node.IsPart ∧ (∀ next ∈ rest.head?, node.isText = true → next.isText = false) ∧ AreParts rest

theorem isPart_iff_isExpression {node : Node} (hole : node.isText = false) :
    node.IsPart ↔ node.IsExpression := by
  cases node with
  | text => cases hole
  | _ => exact Iff.rfl

theorem exists_of_isText {node : Node} (literal : node.isText = true) :
    ∃ value position, node = .text value position := by
  cases node with
  | text value position => exact ⟨value, position, rfl⟩
  | _ => cases literal

end Node

namespace Line

/-- One empty text, or some parts. -/
def IsWellFormed (line : Line) : Prop :=
  (∃ position, line.parts = [.text "" position]) ∨ line.parts ≠ [] ∧ Node.AreParts line.parts

/-- The text at the end of a line, which is empty behind a hole. -/
def lastText (line : Line) : String :=
  match line.parts.getLast? with
  | some (.text value _) => value
  | _ => ""

def EndsInReturn (line : Line) : Prop := line.lastText.toList.getLast? = some '\r'

instance : DecidablePred EndsInReturn := fun line =>
  inferInstanceAs (Decidable (line.lastText.toList.getLast? = some '\r'))

end Line

/-- A line that ends in a carriage return must be the last one, since that character would become
a part of the line end behind it. -/
structure Template.IsWellFormed (template : Template) : Prop where
  nonempty : template.lines ≠ []
  lines : ∀ line ∈ template.lines, line.IsWellFormed
  apart : ∀ line ∈ template.lines.dropLast, ¬line.EndsInReturn

end Stencil
