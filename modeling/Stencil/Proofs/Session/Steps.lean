import Stencil.Proofs.Evaluation.Basic
import Stencil.Session

/-! Sessions step by step. -/

namespace Stencil

/-- The name that is given to a new iterator. -/
def Action.iterator? : Action → Option String
  | start _ _ _ name => some name
  | _ => none

theorem Action.exists_start {action : Action} {name : String}
    (starts : action.iterator? = some name) :
    ∃ template evaluator supply, action = .start template evaluator supply name := by
  cases action with
  | start template evaluator supply other =>
    cases starts
    exact ⟨template, evaluator, supply, rfl⟩
  | _ => cases starts

namespace Step

/-- A call for the next line of an iterator. -/
def asks (name : String) : Step → Bool
  | next other => other == name
  | act _ => false

/-- A step that makes an iterator of a name. -/
def makes (name : String) : Step → Bool
  | next _ => false
  | act action => action.iterator? == some name

end Step

namespace Session

/-- The session behind some steps. -/
def after (session : Session) : List Step → Session
  | [] => session
  | step :: rest => (session.perform step).1.after rest

/-- The answers to those of some steps that are of a kind. -/
def answersTo (session : Session) (kind : Step → Bool) (steps : List Step) :
    List (Except Failure Answer) :=
  ((steps.zip (session.run steps)).filter fun taken => kind taken.1).map fun taken => taken.2

theorem answersTo_cons (session : Session) (kind : Step → Bool) (step : Step) (rest : List Step) :
    session.answersTo kind (step :: rest) =
      (if kind step then [(session.perform step).2] else []) ++
        (session.perform step).1.answersTo kind rest := by
  simp only [answersTo, run, List.zip_cons_cons, List.filter_cons]
  split <;> rfl

variable {session : Session} {name : String}

theorem lookup_of_named {α : Type} {objects : List (String × α)} {value : α}
    (found : named objects name = .ok value) : objects.lookup name = some value := by
  unfold named at found
  split at found
  next known =>
    cases found
    exact known
  next => cases found

theorem lookup_of_registryNamed {found : RegistryRef × Registry}
    (done : session.registryNamed name = .ok found) :
    session.registryNames.lookup name = some found.1 ∧ found.2 = session.registryAt found.1 := by
  obtain ⟨ref, known, same⟩ := exists_of_bind_ok done
  cases same
  exact ⟨lookup_of_named known, rfl⟩

theorem lookup_of_registryNamed_error {failure : Failure}
    (failed : session.registryNamed name = .error failure) :
    session.registryNames.lookup name = none := by
  unfold registryNamed named at failed
  split at failed
  next => cases failed
  next unknown => exact unknown

/-- What an iterator answers with a line or at its end. -/
def lineAnswer : Option String → Answer
  | some text => .line text
  | none => .finished

/-- Only the iterator that is asked goes on. -/
theorem advance_eq {iterator : LineIterator} (known : session.iterators.lookup name = some iterator) :
    session.advance name =
      ({ session with
          iterators := setEntry name (session.nextLine iterator).1 session.iterators },
        (session.nextLine iterator).2.map lineAnswer) := by
  simp only [advance, known]
  rcases session.nextLine iterator with ⟨next, failure | (_ | text)⟩ <;> rfl

theorem advance_unknown (unknown : session.iterators.lookup name = none) :
    session.advance name = (session, .error (.unknownObject name)) := by
  rw [advance, unknown]

end Session

end Stencil
