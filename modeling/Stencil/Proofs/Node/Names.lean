import Stencil.Node.Basic
import Stencil.Text.Case

/-! The names that a tree uses, for values and for functions, and trees that are spelled differently. A
place is the same in two trees when it is reached by the same way from the root. -/

namespace Stencil

open Text

namespace Node

/-! ### Uses of names -/

mutual

/-- The names whose values are needed. A name behind a pipe is not one of them, and what can be no target
of a pipe is not evaluated. -/
def valueNames : Node → List String
  | property name _ => [name]
  | call _ arguments _ => valueNamesAll arguments
  | pipe left (call _ arguments _) _ => valueNames left ++ valueNamesAll arguments
  | pipe left _ _ => valueNames left
  | line parts _ => valueNamesAll parts
  | _ => []

def valueNamesAll : List Node → List String
  | [] => []
  | node :: rest => valueNames node ++ valueNamesAll rest

end

mutual

/-- The names that are called, also by a pipe alone. -/
def functionNames : Node → List String
  | call name arguments _ => name :: functionNamesAll arguments
  | pipe left (property name _) _ => name :: functionNames left
  | pipe left (call name arguments _) _ => name :: (functionNames left ++ functionNamesAll arguments)
  | pipe left _ _ => functionNames left
  | line parts _ => functionNamesAll parts
  | _ => []

def functionNamesAll : List Node → List String
  | [] => []
  | node :: rest => functionNames node ++ functionNamesAll rest

end

/-! ### Spellings -/

mutual

/-- The tree with its names folded and its places forgotten. -/
def folded : Node → Node
  | text value _ => text value .unknown
  | constant value _ => constant value .unknown
  | property name _ => property (fold name) .unknown
  | call name arguments _ => call (fold name) (foldedAll arguments) .unknown
  | pipe left right _ => pipe (folded left) (folded right) .unknown
  | line parts _ => line (foldedAll parts) .unknown
  | template lines => template (foldedAll lines)
  | bare => bare

def foldedAll : List Node → List Node
  | [] => []
  | node :: rest => folded node :: foldedAll rest

end

/-- Trees that differ in the spelling of names, regardless of case, and in their places only. -/
def Respells (first second : Node) : Prop := first.folded = second.folded

/-! ### Places in two trees -/

def children : Node → List Node
  | call _ arguments _ => arguments
  | pipe left right _ => [left, right]
  | line parts _ => parts
  | template lines => lines
  | _ => []

/-- Two nodes that are reached from two roots by the same way. -/
inductive SamePlace : Node → Node → Node → Node → Prop where
  | here (first second : Node) : SamePlace first second first second
  | child {first second child other inner innerOther : Node} (index : Nat)
      (left : first.children[index]? = some child) (right : second.children[index]? = some other)
      (below : SamePlace child other inner innerOther) : SamePlace first second inner innerOther

/-- What marks a node in the text, with its place: its name, or the character of a pipe. -/
def mark? : Node → Option (String × Position)
  | property name position => some (name, position)
  | call name _ position => some (name, position)
  | pipe _ _ position => some ("|", position)
  | template _ => some ("", .unknown)
  | _ => none

/-- The marks of two nodes at the same place. -/
def SameMark (first second : Node) (mark other : String × Position) : Prop :=
  ∃ inner innerOther, SamePlace first second inner innerOther ∧
    inner.mark? = some mark ∧ innerOther.mark? = some other

/-- Marks at the same place, in nodes of the same number. -/
def SameMarkAmong (nodes others : List Node) (mark other : String × Position) : Prop :=
  ∃ index : Nat, ∃ first second, nodes[index]? = some first ∧ others[index]? = some second ∧
    SameMark first second mark other

variable {first second : Node} {nodes others : List Node} {mark other : String × Position}

theorem sameMark_here (own : first.mark? = some mark) (ownOther : second.mark? = some other) :
    SameMark first second mark other :=
  ⟨first, second, .here first second, own, ownOther⟩

theorem sameMark_of_children (same : SameMarkAmong first.children second.children mark other) :
    SameMark first second mark other := by
  obtain ⟨index, child, childOther, left, right, inner, innerOther, below, marks⟩ := same
  exact ⟨inner, innerOther, .child index left right below, marks⟩

theorem sameMark_left {right rightOther : Node} {position place : Position}
    (same : SameMark first second mark other) :
    SameMark (pipe first right position) (pipe second rightOther place) mark other :=
  sameMark_of_children ⟨0, first, second, rfl, rfl, same⟩

theorem sameMark_right {left leftOther : Node} {position place : Position}
    (same : SameMark first second mark other) :
    SameMark (pipe left first position) (pipe leftOther second place) mark other :=
  sameMark_of_children ⟨1, first, second, rfl, rfl, same⟩

theorem sameMarkAmong_head (same : SameMark first second mark other) :
    SameMarkAmong (first :: nodes) (second :: others) mark other :=
  ⟨0, first, second, rfl, rfl, same⟩

theorem sameMarkAmong_tail (same : SameMarkAmong nodes others mark other) :
    SameMarkAmong (first :: nodes) (second :: others) mark other := by
  obtain ⟨index, child, childOther, left, right, below⟩ := same
  exact ⟨index + 1, child, childOther, left, right, below⟩

end Node

namespace Template

variable (template : Template)

def valueNames : List String := Node.valueNamesAll (template.lines.map Line.toNode)

def functionNames : List String := Node.functionNamesAll (template.lines.map Line.toNode)

end Template

end Stencil
