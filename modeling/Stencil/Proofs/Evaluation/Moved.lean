import Stencil.Proofs.Evaluation.Basic
import Stencil.Proofs.Failure.Moved

/-! Evaluation of a tree with its places changed. The places in a tree show in nothing but the
places of failures, so these change in the same way and everything else stays. -/

namespace Stencil

/-- A rendering of which the failure is at another place. -/
def Rendering.moved (move : Position → Position) (rendering : Rendering) : Rendering :=
  ⟨rendering.lines, rendering.failure.map (Failure.moved move)⟩

namespace Evaluator

variable (self : Evaluator) (source : Source) (move : Position → Position)

theorem property_moved (name : String) (position : Position) :
    property source name (move position) =
      (property source name position).mapError (Failure.moved move) := by
  unfold property
  cases source.find? name <;> rfl

theorem call_moved (functions : Registry) (name : String) (values : List Value)
    (position : Position) :
    call functions name values (move position) =
      (call functions name values position).mapError (Failure.moved move) := by
  unfold call
  cases functions.find? name with
  | none => rfl
  | some function =>
    simp only
    cases function.invoke values <;> rfl

theorem shown_mapError (options : Options) (value : Value) :
    (options.shown value).mapError (Failure.moved move) = options.shown value :=
  mapError_moved move (shown_ne_template options value)

theorem showTexts_mapError (texts : List (Option String)) (place : Nat) :
    (showTexts place texts).mapError (Failure.moved move) = showTexts place texts :=
  mapError_moved move (showTexts_ne_template texts place)

theorem renderPart_moved {node : Node} (value : self.evaluate source (node.moved move) =
      (self.evaluate source node).mapError (Failure.moved move)) :
    self.renderPart source (node.moved move) =
      (self.renderPart source node).mapError (Failure.moved move) := by
  cases node with
  | text => rfl
  | _ =>
    rw [renderPart_hole, renderPart_hole, value, mapError_bind]
    · simp only [shown_mapError move]
    all_goals
      intros
      exact Node.noConfusion

mutual

/-- The place of a template within another node is unknown, and must stay so. -/
theorem evaluate_moved (fixed : move .unknown = .unknown) : (node : Node) →
    self.evaluate source (node.moved move) =
      (self.evaluate source node).mapError (Failure.moved move)
  | .text _ _ => rfl
  | .constant _ _ => rfl
  | .property name position => property_moved source move name position
  | .call name arguments position => by
    simp only [Node.moved, evaluate, mapError_bind, evaluateAll_moved fixed arguments,
      call_moved move self.functions name _ position]
  | .pipe left right position => by
    have first := evaluate_moved fixed left
    cases right with
    | property name place =>
      simp only [Node.moved, evaluate, mapError_bind, first,
        call_moved move self.functions name _ place]
    | call name arguments place =>
      simp only [Node.moved, evaluate, mapError_bind, first, evaluateAll_moved fixed arguments,
        call_moved move self.functions name _ place]
    | _ =>
      rw [Node.moved, evaluate_pipe_other, evaluate_pipe_other, mapError_bind, first,
        Node.source_moved]
      · rfl
      all_goals
        intros
        exact Node.noConfusion
  | .line parts position => by
    simp only [Node.moved, evaluate, mapError_bind, renderParts_moved fixed parts,
      showTexts_mapError move]
    rfl
  | .template _ => congrArg (fun place => evaluationFailure .nestedTemplate place) fixed.symm
  | .bare => rfl

theorem evaluateAll_moved (fixed : move .unknown = .unknown) : (nodes : List Node) →
    self.evaluateAll source (Node.movedAll move nodes) =
      (self.evaluateAll source nodes).mapError (Failure.moved move)
  | [] => rfl
  | node :: rest => by
    simp only [Node.movedAll, evaluateAll, mapError_bind, evaluate_moved fixed node,
      evaluateAll_moved fixed rest]
    rfl

theorem renderParts_moved (fixed : move .unknown = .unknown) : (nodes : List Node) →
    self.renderParts source (Node.movedAll move nodes) =
      (self.renderParts source nodes).mapError (Failure.moved move)
  | [] => rfl
  | node :: rest => by
    have first := renderPart_moved self source move (evaluate_moved fixed node)
    rw [Node.movedAll, renderParts_cons, renderParts_cons, first, renderParts_moved fixed rest]
    simp only [mapError_bind]
    rfl

end

section

variable (fixed : move .unknown = .unknown)

include fixed

theorem renderLine_moved (line : Line) :
    self.renderLine source (line.moved move) =
      (self.renderLine source line).mapError (Failure.moved move) := by
  have parts := renderParts_moved self source move fixed line.parts
  rw [Node.movedAll_eq_map] at parts
  simp only [renderLine, mapError_bind, showTexts_mapError move]
  rw [← parts]
  rfl

theorem renderLines_moved (lines : List Line) :
    self.renderLines source (lines.map (Line.moved move)) =
      (self.renderLines source lines).moved move := by
  induction lines with
  | nil => rfl
  | cons line rest ih =>
    rw [List.map_cons, renderLines, renderLines, renderLine_moved self source move fixed, ih]
    cases self.renderLine source line <;> rfl

/-- A template with its places changed is rendered to the same lines. -/
theorem render_moved (template : Template) :
    self.render (template.moved move) source = (self.render template source).moved move :=
  renderLines_moved self source move fixed template.lines

end

end Evaluator

end Stencil
