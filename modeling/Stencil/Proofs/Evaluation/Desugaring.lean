import Stencil.Proofs.Evaluation.Basic

/-! Pipes as another way to write calls. Piping into a call, or into a bare name, is calling with
one more argument in front; only a pipe into something else stays a pipe, and fails. -/

namespace Stencil

namespace Node

mutual

/-- A node with its pipes written as calls, also those in arguments. -/
def desugared : Node → Node
  | call name arguments position => .call name (desugaredAll arguments) position
  | pipe left (property name place) _ => .call name [desugared left] place
  | pipe left (call name arguments place) _ =>
    .call name (desugared left :: desugaredAll arguments) place
  | pipe left target position => .pipe (desugared left) target position
  | node => node

def desugaredAll : List Node → List Node
  | [] => []
  | node :: rest => desugared node :: desugaredAll rest

end

theorem desugared_pipe_other {right : Node} (unnamed : ∀ name place, right ≠ .property name place)
    (uncalled : ∀ name arguments place, right ≠ .call name arguments place) (left : Node)
    (position : Position) :
    (pipe left right position).desugared = .pipe left.desugared right position := by
  rw [desugared]
  · exact unnamed
  · exact uncalled

theorem desugared_ne_text {node : Node} (hole : ∀ value place, node ≠ .text value place)
    (value : String) (place : Position) : node.desugared ≠ .text value place := by
  unfold desugared
  split
  next => exact Node.noConfusion
  next => exact Node.noConfusion
  next => exact Node.noConfusion
  next => exact Node.noConfusion
  next => exact hole value place

end Node

/-- The parts of a line without pipes, as far as these can be written as calls. -/
def Line.desugared (line : Line) : Line := ⟨line.parts.map Node.desugared, line.position⟩

def Template.desugared (template : Template) : Template := ⟨template.lines.map Line.desugared⟩

namespace Evaluator

variable (self : Evaluator) (source : Source)

/-- The first argument of a call can be evaluated ahead of the call, which then gets it as a
constant. -/
theorem evaluate_withPiped (argument : Node) (place : Position) (name : String)
    (arguments : List Node) (position : Position) :
    self.evaluate source (argument.withPiped (.call name arguments position)) =
      self.evaluate source argument >>= fun value =>
        self.evaluate source ((Node.constant value place).withPiped
          (.call name arguments position)) := by
  simp only [Node.withPiped, evaluate, evaluateAll, bind_assoc, pure_bind]
  rfl

/-- A pipe hands the value of its left side to the call on its right, as a constant. -/
theorem evaluate_pipe_call (left : Node) (name : String) (arguments : List Node)
    (place position : Position) :
    self.evaluate source (.pipe left (.call name arguments place) position) =
      self.evaluate source left >>= fun value =>
        self.evaluate source ((Node.constant value position).withPiped
          (.call name arguments place)) := by
  simp only [Node.withPiped, evaluate, evaluateAll, bind_assoc, pure_bind]
  rfl

/-- A bare name behind a pipe is a call without other arguments. -/
theorem evaluate_pipe_property (left : Node) (name : String) (place position : Position) :
    self.evaluate source (.pipe left (.property name place) position) =
      self.evaluate source (.pipe left (.call name [] place) position) := by
  simp only [evaluate, evaluateAll]
  rfl

/-- A pipe into a call is the call with one more argument. -/
theorem evaluate_pipe_eq_withPiped (left : Node) (name : String) (arguments : List Node)
    (place position : Position) :
    self.evaluate source (.pipe left (.call name arguments place) position) =
      self.evaluate source (left.withPiped (.call name arguments place)) := by
  rw [evaluate_pipe_call, ← evaluate_withPiped]

mutual

theorem evaluate_node_desugared : (node : Node) →
    self.evaluate source node.desugared = self.evaluate source node
  | .call name arguments position => by
    rw [Node.desugared, evaluate, evaluate, evaluateAll_desugared arguments]
  | .pipe left right position => by
    have first := evaluate_node_desugared left
    cases right with
    | property name place =>
      calc self.evaluate source (Node.pipe left (.property name place) position).desugared
          = self.evaluate source (left.desugared.withPiped (.call name [] place)) := rfl
        _ = self.evaluate source (left.withPiped (.call name [] place)) := by
          simp only [Node.withPiped, evaluate, evaluateAll, first]
        _ = self.evaluate source (.pipe left (.call name [] place) position) := by
          rw [evaluate_pipe_eq_withPiped]
        _ = self.evaluate source (.pipe left (.property name place) position) := by
          rw [evaluate_pipe_property]
    | call name arguments place =>
      have others := evaluateAll_desugared arguments
      calc self.evaluate source (Node.pipe left (.call name arguments place) position).desugared
          = self.evaluate source
              (left.desugared.withPiped (.call name (Node.desugaredAll arguments) place)) := rfl
        _ = self.evaluate source (left.withPiped (.call name arguments place)) := by
          simp only [Node.withPiped, evaluate, evaluateAll, first, others]
        _ = self.evaluate source (.pipe left (.call name arguments place) position) := by
          rw [evaluate_pipe_eq_withPiped]
    | _ =>
      rw [Node.desugared_pipe_other, evaluate_pipe_other, evaluate_pipe_other, first]
      all_goals
        intros
        exact Node.noConfusion
  | .text _ _ => rfl
  | .constant _ _ => rfl
  | .property _ _ => rfl
  | .line _ _ => rfl
  | .template _ => rfl
  | .bare => rfl

theorem evaluateAll_desugared : (nodes : List Node) →
    self.evaluateAll source (Node.desugaredAll nodes) = self.evaluateAll source nodes
  | [] => rfl
  | node :: rest => by
    rw [Node.desugaredAll, evaluateAll, evaluateAll, evaluate_node_desugared node,
      evaluateAll_desugared rest]

end

theorem renderPart_desugared (node : Node) :
    self.renderPart source node.desugared = self.renderPart source node := by
  cases node with
  | text value position => rfl
  | _ =>
    rw [renderPart_hole, renderPart_hole, evaluate_node_desugared]
    · intros
      exact Node.noConfusion
    · apply Node.desugared_ne_text
      intros
      exact Node.noConfusion

theorem renderParts_desugared (parts : List Node) :
    self.renderParts source (parts.map Node.desugared) = self.renderParts source parts := by
  induction parts with
  | nil => rfl
  | cons node rest ih =>
    rw [List.map_cons, renderParts_cons, renderParts_cons, renderPart_desugared, ih]

theorem renderLines_desugared (lines : List Line) :
    self.renderLines source (lines.map Line.desugared) = self.renderLines source lines := by
  induction lines with
  | nil => rfl
  | cons line rest ih =>
    have first : self.renderLine source line.desugared = self.renderLine source line :=
      congrArg (fun texts => texts >>= showTexts 0) (self.renderParts_desugared source line.parts)
    rw [List.map_cons, renderLines, renderLines, first, ih]

/-- An expression and the calls that its pipes stand for have the same value, or fail in the same way
at the same place. So a template is rendered to the same lines up to the same failure. -/
theorem evaluate_desugared (self : Evaluator) (source : Source) :
    (∀ node : Node, self.evaluate source node.desugared = self.evaluate source node) ∧
    ∀ template : Template, self.render template.desugared source = self.render template source :=
  ⟨evaluate_node_desugared self source, fun template => renderLines_desugared self source template.lines⟩

end Evaluator

end Stencil
