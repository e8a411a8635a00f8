import Stencil.Failure
import Stencil.Proofs.Node.Moved

/-! Failures with their places changed. Kind and message stay as they are. -/

namespace Stencil

namespace TemplateError

/-- A template error at another place. -/
def moved (move : Position → Position) : TemplateError → TemplateError
  | lexical cause position => lexical cause (move position)
  | grammar found expected => grammar (found.moved move) expected
  | evaluation cause position => evaluation cause (move position)

variable (move : Position → Position) (error : TemplateError)

theorem position_moved : (error.moved move).position = move error.position := by
  cases error <;> rfl

theorem kind_moved : (error.moved move).kind = error.kind := by
  cases error <;> rfl

theorem message_moved : (error.moved move).message = error.message := by
  cases error <;> rfl

end TemplateError

/-- Only template errors have a place. -/
def Failure.moved (move : Position → Position) : Failure → Failure
  | template error => template (error.moved move)
  | other => other

theorem mapError_moved {α : Type} (move : Position → Position) {outcome : Except Failure α}
    (unplaced : ∀ error, outcome ≠ .error (.template error)) :
    outcome.mapError (Failure.moved move) = outcome := by
  cases outcome with
  | ok value => rfl
  | error failure =>
    cases failure with
    | template error => exact absurd rfl (unplaced error)
    | _ => rfl

theorem mapError_bind {ε ε' α β : Type} (change : ε → ε') (first : Except ε α)
    (next : α → Except ε β) :
    (first >>= next).mapError change =
      first.mapError change >>= fun value => (next value).mapError change := by
  cases first <;> rfl

end Stencil
