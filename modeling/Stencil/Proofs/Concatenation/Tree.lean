import Stencil.Node.Parse
import Stencil.Proofs.Concatenation.Seam

/-! Templates put together. The last line of the one goes on with the first line of the other; their two
texts become one text, and an empty text is kept only in a line without anything else. -/

namespace Stencil

/-- Two texts become one, at the place of the first. -/
def Node.fuse : Node → Node → Option Node
  | text first position, text second _ => some (.text (first ++ second) position)
  | _, _ => none

def Node.isEmptyText : Node → Bool
  | text value _ => value == ""
  | _ => false

/-- The parts of a line without the empty text that stands for none. -/
def Line.content (line : Line) : List Node := line.parts.filter fun part => !part.isEmptyText

def Line.joined (first second : Line) : Line :=
  Parser.lineOf first.position (seamed Node.fuse first.content second.content)

def joinedLines : List Line → List Line → List Line :=
  seamed fun first second => some (first.joined second)

def Template.joined (first second : Template) : Template :=
  ⟨joinedLines first.lines second.lines⟩

namespace Node

variable {hole : Node} (expression : ∀ value position, hole ≠ .text value position)

include expression

theorem fuse_of_not_text (second : Node) : hole.fuse second = none := by
  cases hole with
  | text value position => exact absurd rfl (expression value position)
  | _ => rfl

theorem fuse_not_text (first : Node) : first.fuse hole = none := by
  cases hole with
  | text value position => exact absurd rfl (expression value position)
  | _ => cases first <;> rfl

theorem isEmptyText_of_not_text : hole.isEmptyText = false := by
  cases hole with
  | text value position => exact absurd rfl (expression value position)
  | _ => rfl

end Node

theorem content_lineOf {parts : List Node} (shown : ∀ part ∈ parts, part.isEmptyText = false)
    (position : Position) : (Parser.lineOf position parts).content = parts := by
  cases parts with
  | nil => rfl
  | cons first others =>
    apply List.filter_eq_self.mpr
    intro part member
    rw [shown part member, Bool.not_false]

theorem position_lineOf (position : Position) (parts : List Node) :
    (Parser.lineOf position parts).position = position := by
  cases parts <;> rfl

end Stencil
