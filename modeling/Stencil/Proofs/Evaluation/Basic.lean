import Stencil.Evaluate

/-! Evaluation and rendering taken apart: what a pipe, a part of a line and a line do with what comes
before and behind them. -/

namespace Stencil

theorem exists_of_bind_ok {α β : Type} {outcome : Except Failure α} {next : α → Except Failure β}
    {result : β} (done : outcome >>= next = .ok result) :
    ∃ value, outcome = .ok value ∧ next value = .ok result := by
  cases outcome with
  | error failure => cases done
  | ok value => exact ⟨value, rfl, done⟩

namespace Evaluator

/-- What goes wrong when a value is shown is no template error, so it has no place. -/
theorem shown_ne_template (options : Options) (value : Value) (error : TemplateError) :
    options.shown value ≠ .error (.template error) := by
  have items : ∀ values, options.showItems values ≠ .error (.template error) := by
    intro values
    unfold Options.showItems
    split
    · simp
    · split
      · simp
      · split <;> simp
  unfold Options.shown
  split
  · simp
  · simp
  · exact items _
  · exact items _
  · unfold Value.shown
    split <;> simp [Except.map]

theorem showTexts_ne_template (texts : List (Option String)) (place : Nat) (error : TemplateError) :
    showTexts place texts ≠ .error (.template error) := by
  induction texts generalizing place with
  | nil => simp [showTexts]
  | cons shown rest ih =>
    intro same
    cases shown with
    | none => cases same
    | some text =>
      have later := ih (place + 1)
      simp only [showTexts, showText] at same
      cases others : showTexts (place + 1) rest with
      | ok shown =>
        rw [others] at same
        cases same
      | error failure =>
        rw [others] at same
        cases same
        exact later others

theorem call_of_find? {functions : Registry} {name : String} {function : Function}
    (found : functions.find? name = some function) {values : List Value} {result : Value}
    (invoked : function.invoke values = .ok result) (position : Position) :
    call functions name values position = .ok result := by
  rw [call, found]
  simp only [invoked]

variable (self : Evaluator) (source : Source)

/-- A pipe into anything but a name or a call. -/
theorem evaluate_pipe_other {right : Node} (unnamed : ∀ name place, right ≠ .property name place)
    (uncalled : ∀ name arguments place, right ≠ .call name arguments place) (left : Node)
    (position : Position) :
    self.evaluate source (.pipe left right position) = (self.evaluate source left >>= fun _ =>
      evaluationFailure (.pipeTarget right.source) position) := by
  rw [evaluate]
  · exact unnamed
  · exact uncalled

/-- What one part of a line shows. -/
def renderPart : Node → Except Failure (Option String)
  | .text value _ => .ok (some value)
  | node => self.evaluate source node >>= self.options.shown

theorem renderPart_hole {node : Node} (hole : ∀ value place, node ≠ .text value place) :
    self.renderPart source node = self.evaluate source node >>= self.options.shown := by
  rw [renderPart]
  exact hole

theorem renderParts_cons (node : Node) (rest : List Node) :
    self.renderParts source (node :: rest) = (do
      let text ← self.renderPart source node
      let texts ← self.renderParts source rest
      return text :: texts) := by
  by_cases literal : ∃ value place, node = .text value place
  · obtain ⟨value, place, rfl⟩ := literal
    rfl
  · have hole : ∀ value place, node ≠ .text value place := fun value place same =>
      literal ⟨value, place, same⟩
    rw [renderPart_hole self source hole, renderParts, bind_assoc]
    exact hole

section

variable {self source} {line : Line}

theorem renderLines_of_error {failure : Failure}
    (failed : self.renderLine source line = .error failure) (rest : List Line) :
    self.renderLines source (line :: rest) = ⟨[], some failure⟩ := by
  rw [renderLines, failed]

theorem renderLines_of_ok {text : String} (rendered : self.renderLine source line = .ok text)
    (rest : List Line) : self.renderLines source (line :: rest) =
      ⟨text :: (self.renderLines source rest).lines, (self.renderLines source rest).failure⟩ := by
  rw [renderLines, rendered]

theorem lines_ne_nil {rest : List Line}
    (complete : (self.renderLines source (line :: rest)).failure = none) :
    (self.renderLines source (line :: rest)).lines ≠ [] := by
  cases rendered : self.renderLine source line with
  | error failure =>
    rw [renderLines_of_error rendered] at complete
    cases complete
  | ok text =>
    rw [renderLines_of_ok rendered]
    exact List.cons_ne_nil _ _

end

end Evaluator

end Stencil
