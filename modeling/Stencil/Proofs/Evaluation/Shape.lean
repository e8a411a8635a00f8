import Stencil.Proofs.Evaluation.Moved

/-! Evaluation of a tree depends on its shape alone. The places in a tree show in nothing but the
places of failures. -/

namespace Stencil

/-- A template error with its place forgotten. -/
def TemplateError.unplaced : TemplateError → TemplateError
  | lexical cause _ => lexical cause .unknown
  | grammar found expected => grammar (found.moved fun _ => .unknown) expected
  | evaluation cause _ => evaluation cause .unknown

def Failure.unplaced : Failure → Failure
  | template error => template error.unplaced
  | other => other

theorem Failure.unplaced_eq_moved : Failure.unplaced = Failure.moved fun _ => .unknown := by
  funext failure
  cases failure with
  | template error => cases error <;> rfl
  | _ => rfl

/-- The same lines, and the same failure but for its place. -/
def Rendering.Agrees (first second : Rendering) : Prop :=
  first.lines = second.lines ∧
    first.failure.map Failure.unplaced = second.failure.map Failure.unplaced

/-- Templates of one shape are rendered in the same way. -/
theorem Evaluator.render_agrees (self : Evaluator) (source : Source) {first second : Template}
    (same : first.shape = second.shape) :
    (self.render first source).Agrees (self.render second source) := by
  have forget : ∀ template : Template, self.render template.shape source =
      (self.render template source).moved fun _ => .unknown :=
    self.render_moved source (fun _ => .unknown) rfl
  have renderings : (self.render first source).moved (fun _ => .unknown) =
      (self.render second source).moved fun _ => .unknown := by
    rw [← forget, ← forget, same]
  have lines : (self.render first source).lines = (self.render second source).lines :=
    congrArg (fun rendering => rendering.lines) renderings
  rw [Rendering.Agrees, Failure.unplaced_eq_moved]
  exact ⟨lines, congrArg Rendering.failure renderings⟩

end Stencil
