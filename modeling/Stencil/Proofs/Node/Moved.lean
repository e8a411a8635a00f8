import Stencil.Node.Source
import Stencil.Token.Basic

/-! Trees and tokens with their places changed. The shape of a tree is the tree with all places
forgotten; what a tree is written as depends on its shape alone. -/

namespace Stencil

def Token.moved (move : Position → Position) (token : Token) : Token :=
  { token with position := move token.position }

@[simp] theorem Token.kind_moved (move : Position → Position) (token : Token) :
    (token.moved move).kind = token.kind := rfl

namespace Node

mutual

def moved (move : Position → Position) : Node → Node
  | text value position => .text value (move position)
  | constant value position => .constant value (move position)
  | property name position => .property name (move position)
  | call name arguments position => .call name (movedAll move arguments) (move position)
  | pipe left right position => .pipe (moved move left) (moved move right) (move position)
  | line parts position => .line (movedAll move parts) (move position)
  | template lines => .template (movedAll move lines)
  | bare => .bare

def movedAll (move : Position → Position) : List Node → List Node
  | [] => []
  | node :: rest => moved move node :: movedAll move rest

end

theorem movedAll_eq_map (move : Position → Position) (nodes : List Node) :
    movedAll move nodes = nodes.map (moved move) := by
  induction nodes with
  | nil => rfl
  | cons node rest ih => rw [movedAll, ih, List.map_cons]

end Node

def Line.moved (move : Position → Position) (line : Line) : Line :=
  ⟨line.parts.map (Node.moved move), move line.position⟩

def Template.moved (move : Position → Position) (template : Template) : Template :=
  ⟨template.lines.map (Line.moved move)⟩

/-! ### Shapes -/

/-- A node with all its places forgotten. -/
def Node.shape (node : Node) : Node := node.moved fun _ => .unknown

def Line.shape (line : Line) : Line := line.moved fun _ => .unknown

def Template.shape (template : Template) : Template := template.moved fun _ => .unknown

namespace Node

@[simp] theorem shape_text (value : String) (position : Position) :
    (text value position).shape = .text value .unknown := rfl

@[simp] theorem shape_constant (value : Value) (position : Position) :
    (constant value position).shape = .constant value .unknown := rfl

@[simp] theorem shape_property (name : String) (position : Position) :
    (property name position).shape = .property name .unknown := rfl

@[simp] theorem shape_call (name : String) (arguments : List Node) (position : Position) :
    (call name arguments position).shape = .call name (arguments.map shape) .unknown := by
  rw [shape, moved, movedAll_eq_map]
  rfl

@[simp] theorem shape_pipe (left right : Node) (position : Position) :
    (pipe left right position).shape = .pipe left.shape right.shape .unknown := rfl

@[simp] theorem shape_line (parts : List Node) (position : Position) :
    (line parts position).shape = .line (parts.map shape) .unknown := by
  rw [shape, moved, movedAll_eq_map]
  rfl

mutual

theorem source_moved (move : Position → Position) : (node : Node) →
    (node.moved move).source = node.source
  | text _ _ => rfl
  | constant _ _ => rfl
  | property _ _ => rfl
  | call name arguments position => by rw [moved, source, source, sources_moved move arguments]
  | pipe left right position => by
    rw [moved, source, source, source_moved move left, source_moved move right]
  | line parts position => by rw [moved, source, source, partSources_moved move parts]
  | template lines => by rw [moved, source, source, sources_moved move lines]
  | bare => rfl

theorem sources_moved (move : Position → Position) : (nodes : List Node) →
    sources (movedAll move nodes) = sources nodes
  | [] => rfl
  | node :: rest => by
    rw [movedAll, sources, sources, source_moved move node, sources_moved move rest]

theorem partSources_moved (move : Position → Position) : (nodes : List Node) →
    partSources (movedAll move nodes) = partSources nodes
  | [] => rfl
  | node :: rest => by
    have others := partSources_moved move rest
    have first := source_moved move node
    cases node <;> simp_all [movedAll, partSources, moved]

end

end Node

theorem Line.toNode_shape (line : Line) : line.shape.toNode = line.toNode.shape := by
  simp only [Line.toNode, Node.shape, Node.moved, Node.movedAll_eq_map]
  rfl

theorem Line.source_shape (line : Line) : line.shape.source = line.source := by
  rw [Line.source, Line.toNode_shape, Node.shape, Node.source_moved, Line.source]

end Stencil
