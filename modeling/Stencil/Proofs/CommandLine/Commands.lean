import Stencil.Proofs.CommandLine.Keys
import Stencil.Proofs.CommandLine.Reading
import Stencil.Proofs.CommandLine.Writing
import Stencil.Proofs.Report.Outcome

/-! Rendering and reporting on the command line. Both commands are meant to end with the status that the
outcome of rendering asks for; one writes the lines in front of a failure and the other a report on the
outcome. So they end, unless standard output refuses what they write. -/

namespace Stencil.CommandLine

/-- The outcome of rendering the text of a job with its values, which have to be read first. -/
def Job.outcome (seen : Surroundings) (job : Job) : Except Refusal (List String) := do
  let (text, values) ← job.read seen
  (renderText job.evaluator text (.mapping values.mapping)).mapError .failure

/-- The end that is meant for rendering a text. -/
def renderEnd (self : Evaluator) (debug : Bool) (text : String) (values : Mapping) : Outcome :=
  match parse text with
  | .error failure => refuse text [] [] (.failure failure)
  | .ok template =>
    let traces := parseTraces debug template
    match Source.ofMapping values with
    | .error failure => refuse text [] traces (.failure failure)
    | .ok source => renderingEnd debug text traces (self.render template source)

section

variable (seen : Surroundings) (self : Evaluator) (debug : Bool) (text : String) (values : Mapping)

theorem lines_renderingEnd (traces : List String) (rendering : Rendering) :
    (renderingEnd debug text traces rendering).lines = rendering.lines := by
  unfold renderingEnd
  cases rendering.failure with
  | none => rfl
  | some failure => exact lines_refuse _ _ _ _

theorem ends_renderTemplate :
    Ends seen (renderEnd self debug text values) (renderTemplate seen self debug text values) := by
  unfold renderTemplate renderEnd
  cases parse text with
  | error failure => exact ends_of_lines_eq_nil (lines_refuse _ _ _ _)
  | ok template =>
    cases Source.ofMapping values with
    | error failure => exact ends_of_lines_eq_nil (lines_refuse _ _ _ _)
    | ok source => exact ends_afterWriting (lines_renderingEnd _ _ _ _) _

end

/-! ### What is read -/

/-- No template error is what goes wrong. -/
def IsPlain {α : Type} (outcome : Except Refusal α) : Prop :=
  ∀ error, outcome ≠ .error (.failure (.template error))

section

variable {α β : Type}

theorem IsPlain.bind {outcome : Except Refusal α} {next : α → Except Refusal β}
    (first : IsPlain outcome) (later : ∀ value, IsPlain (next value)) :
    IsPlain (outcome >>= next) := by
  cases outcome with
  | ok value => exact later value
  | error refusal =>
    intro error same
    cases same
    exact first error rfl

end

variable (seen : Surroundings)

/-- Nothing to be seen but the arguments, and an output that can write every text. -/
def alone : Surroundings := ⟨fun _ => .missing, "", false, fun _ => .malformed "", fun _ => none⟩

end Stencil.CommandLine
