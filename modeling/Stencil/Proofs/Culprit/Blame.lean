import Stencil.Proofs.Evaluation.Basic

/-! What a template error points to. An error of evaluation names a part of the tree, so where the names
and the pipes of a tree stand at their places, the culprit stands at the place of the error. -/

namespace Stencil

/-- The characters that an error points to: the token that the grammar does not allow, the name that
is unknown or whose call failed, or the pipe. -/
def TemplateError.culprit : TemplateError → String
  | lexical _ _ => ""
  | grammar found _ => found.lexeme
  | evaluation (.unknownProperty name _) _ => name
  | evaluation (.unknownFunction name _) _ => name
  | evaluation (.failedCall function _) _ => function
  | evaluation (.pipeTarget _) _ => "|"
  | evaluation .nestedTemplate _ => ""
  | evaluation (.reported _) _ => ""

namespace Node

mutual

/-- The names and the pipes of a node stand at the places that the node has for them. A template within
a node has no place. -/
def IsAnchored (stands : String → Position → Prop) : Node → Prop
  | text _ _ => True
  | constant _ _ => True
  | property name position => stands name position
  | call name arguments position => stands name position ∧ AreAnchored stands arguments
  | pipe left right position =>
    IsAnchored stands left ∧ IsAnchored stands right ∧ stands "|" position
  | line parts _ => AreAnchored stands parts
  | template _ => False
  | bare => True

def AreAnchored (stands : String → Position → Prop) : List Node → Prop
  | [] => True
  | node :: rest => IsAnchored stands node ∧ AreAnchored stands rest

end

end Node

/-- A template error in the outcome points to what stands at its place. -/
def Blames {α : Type} (stands : String → Position → Prop) (outcome : Except Failure α) : Prop :=
  ∀ error, outcome = .error (.template error) → stands error.culprit error.position

section

variable {stands : String → Position → Prop} {α β : Type}

theorem blames_ok (value : α) : Blames stands (.ok value) := by
  intro error failed
  cases failed

theorem blames_error {error : TemplateError} (known : stands error.culprit error.position) :
    Blames stands (.error (.template error) : Except Failure α) := by
  intro other failed
  cases failed
  exact known

theorem blames_of_ne_template {outcome : Except Failure α}
    (unplaced : ∀ error, outcome ≠ .error (.template error)) : Blames stands outcome := by
  intro error failed
  exact absurd failed (unplaced error)

theorem Blames.bind {outcome : Except Failure α} {next : α → Except Failure β}
    (first : Blames stands outcome) (later : ∀ value, Blames stands (next value)) :
    Blames stands (outcome >>= next) := by
  cases outcome with
  | ok value => exact later value
  | error failure =>
    intro error failed
    cases failed
    exact first error rfl

end

namespace Evaluator

variable (self : Evaluator) (source : Source) {stands : String → Position → Prop}

theorem blames_property {name : String} {position : Position} (known : stands name position) :
    Blames stands (property source name position) := by
  unfold property
  cases source.find? name with
  | some value => exact blames_ok value
  | none => exact blames_error known

theorem blames_call (functions : Registry) {name : String} (values : List Value)
    {position : Position} (known : stands name position) :
    Blames stands (call functions name values position) := by
  unfold call
  cases functions.find? name with
  | none => exact blames_error known
  | some function =>
    simp only
    cases function.invoke values with
    | ok value => exact blames_ok value
    | error cause => exact blames_error known

theorem blames_renderPart {node : Node} (value : Blames stands (self.evaluate source node)) :
    Blames stands (self.renderPart source node) := by
  unfold renderPart
  split
  next text _ => exact blames_ok (some text)
  next node _ =>
    apply value.bind
    intro found
    exact blames_of_ne_template (shown_ne_template self.options found)

mutual

theorem blames_evaluate : (node : Node) → node.IsAnchored stands →
    Blames stands (self.evaluate source node)
  | .text value _, _ => blames_ok (Value.text value)
  | .constant value _, _ => blames_ok value
  | .property _ _, known => blames_property source known
  | .call name arguments position, ⟨known, others⟩ => by
    rw [evaluate]
    apply (blames_evaluateAll arguments others).bind
    intro values
    exact blames_call self.functions values known
  | .pipe left right position, ⟨first, target, mark⟩ => by
    have operand := blames_evaluate left first
    cases right with
    | property name place =>
      rw [evaluate]
      apply operand.bind
      intro value
      exact blames_call self.functions [value] target
    | call name arguments place =>
      obtain ⟨known, others⟩ := target
      rw [evaluate]
      apply operand.bind
      intro value
      apply (blames_evaluateAll arguments others).bind
      intro values
      exact blames_call self.functions (value :: values) known
    | _ =>
      rw [evaluate_pipe_other]
      · apply operand.bind
        intro _
        exact blames_error mark
      all_goals
        intros
        exact Node.noConfusion
  | .line parts _, anchored => by
    rw [evaluate]
    apply (blames_renderParts parts anchored).bind
    intro texts
    have joined : Blames stands (showTexts 0 texts) :=
      blames_of_ne_template (showTexts_ne_template texts 0)
    apply joined.bind
    intro text
    exact blames_ok (Value.text text)
  | .bare, _ => blames_of_ne_template (by simp [evaluate])

theorem blames_evaluateAll : (nodes : List Node) → Node.AreAnchored stands nodes →
    Blames stands (self.evaluateAll source nodes)
  | [], _ => blames_ok []
  | node :: rest, ⟨first, others⟩ => by
    rw [evaluateAll]
    apply (blames_evaluate node first).bind
    intro value
    apply (blames_evaluateAll rest others).bind
    intro values
    exact blames_ok (value :: values)

theorem blames_renderParts : (nodes : List Node) → Node.AreAnchored stands nodes →
    Blames stands (self.renderParts source nodes)
  | [], _ => blames_ok []
  | node :: rest, ⟨first, others⟩ => by
    rw [renderParts_cons]
    apply (blames_renderPart self source (blames_evaluate node first)).bind
    intro text
    apply (blames_renderParts rest others).bind
    intro texts
    exact blames_ok (text :: texts)

end

theorem blames_renderLine (line : Line) (anchored : Node.AreAnchored stands line.parts) :
    Blames stands (self.renderLine source line) := by
  apply (blames_renderParts self source line.parts anchored).bind
  intro texts
  exact blames_of_ne_template (showTexts_ne_template texts 0)

/-- A rendering fails where one of its lines does. -/
theorem blames_render (template : Template)
    (anchored : ∀ line ∈ template.lines, Node.AreAnchored stands line.parts) :
    Blames stands (self.render template source).complete := by
  obtain ⟨lines⟩ := template
  induction lines with
  | nil => exact blames_ok []
  | cons line rest ih =>
    obtain ⟨first, others⟩ := List.forall_mem_cons.mp anchored
    have failing := blames_renderLine self source line first
    have later := ih others
    rw [render] at later ⊢
    cases rendered : self.renderLine source line with
    | error failure =>
      rw [renderLines_of_error rendered]
      intro error failed
      cases failed
      exact failing error rendered
    | ok text =>
      rw [renderLines_of_ok rendered]
      unfold Rendering.complete at later ⊢
      cases fault : (self.renderLines source rest).failure with
      | none => exact blames_ok _
      | some failure =>
        rw [fault] at later
        exact later

end Evaluator

end Stencil
