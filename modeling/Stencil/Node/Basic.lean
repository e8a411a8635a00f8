import Stencil.Position
import Stencil.Value.Equality

/-! The tree of a template. A template is a list of lines, a line a list of parts, and a part
literal text or the expression of a hole. -/

namespace Stencil

/-- One type for all nodes, so that expressions can be built from nodes that no template text
writes, such as a line within a call. -/
inductive Node where
  | text (value : String) (position : Position)
  | constant (value : Value) (position : Position)
  | property (name : String) (position : Position)
  | call (name : String) (arguments : List Node) (position : Position)
  | pipe (left right : Node) (position : Position)
  | line (parts : List Node) (position : Position)
  | template (lines : List Node)
  /-- An expression of no known kind. -/
  | bare

/-- One line of a template. -/
structure Line where
  parts : List Node
  position : Position

structure Template where
  lines : List Line

def Line.toNode (line : Line) : Node := .line line.parts line.position

def Template.toNode (template : Template) : Node := .template (template.lines.map Line.toNode)

namespace Node

def line? : Node → Option Line
  | line parts position => some ⟨parts, position⟩
  | _ => none

/-- All nodes as lines, unless one of them is something else. -/
def linesOf : List Node → Option (List Line)
  | [] => some []
  | node :: rest => do
    let line ← node.line?
    let lines ← linesOf rest
    some (line :: lines)

def template? : Node → Option Template
  | template lines => (linesOf lines).map (⟨·⟩)
  | _ => none

/-- A call with one more argument in front; other nodes stay as they are. -/
def withPiped (argument : Node) : Node → Node
  | call name arguments position => call name (argument :: arguments) position
  | node => node

mutual

/-- Nodes of one kind with the same parts at the same places, constants compared by value. -/
def same : Node → Node → Bool
  | text value place, text value' place' => value == value' && place == place'
  | constant value place, constant value' place' => value.same value' && place == place'
  | property name place, property name' place' => name == name' && place == place'
  | call name arguments place, call name' arguments' place' =>
    name == name' && sameAll arguments arguments' && place == place'
  | pipe left right place, pipe left' right' place' =>
    same left left' && same right right' && place == place'
  | line parts place, line parts' place' => sameAll parts parts' && place == place'
  | template lines, template lines' => sameAll lines lines'
  | bare, bare => true
  | _, _ => false

def sameAll : List Node → List Node → Bool
  | [], [] => true
  | a :: as, b :: bs => same a b && sameAll as bs
  | _, _ => false

end

end Node

end Stencil
