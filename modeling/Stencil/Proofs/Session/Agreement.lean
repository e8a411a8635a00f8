import Stencil.Proofs.Session.Steps

/-! Sessions that differ in one iterator. Every step keeps them so, and only a call for the next line of that
iterator tells them apart. -/

namespace Stencil

namespace Session

/-- A session with other iterators. -/
def withIterators (session : Session) (iterators : List (String × LineIterator)) : Session :=
  { session with iterators := iterators }

/-- Sessions that differ in an iterator of one name at most. -/
structure AgreeExcept (name : String) (session other : Session) : Prop where
  same : other = session.withIterators other.iterators
  others : ∀ key, key ≠ name → other.iterators.lookup key = session.iterators.lookup key

variable {name : String} {session other : Session}

theorem bind_eq_map {α β γ : Type} {outcome : Except Failure α} {next : α → Except Failure β}
    {other : α → Except Failure γ} {change : β → γ}
    (same : ∀ value, other value = (next value).map change) :
    (outcome >>= other) = (outcome >>= next).map change := by
  cases outcome with
  | error failure => rfl
  | ok value => exact same value

/-- What is done does not depend on the iterators there are and, but for the start of one, leaves them as
they are. -/
theorem act_withIterators (session : Session) (iterators : List (String × LineIterator))
    {action : Action} (plain : action.iterator? = none) :
    (session.withIterators iterators).act action =
      (session.act action).map fun result => (result.1.withIterators iterators, result.2) := by
  cases action with
  | start => cases plain
  | registry origin name => cases origin <;> rfl
  | parse | copy | add | get | names | source | lookup => exact bind_eq_map fun _ => rfl
  | register registry function =>
    refine bind_eq_map fun found => ?_
    exact bind_eq_map fun _ => rfl
  | registerShared function => exact bind_eq_map fun _ => rfl
  | contains registry name =>
    refine bind_eq_map fun found => ?_
    cases name <;> rfl
  | invoke registry name arguments =>
    refine bind_eq_map fun ⟨ref, found⟩ => ?_
    dsimp only
    cases found.find? name with
    | none => rfl
    | some function =>
      dsimp only
      cases function.invoke arguments <;> rfl
  | evaluator registry options name =>
    cases registry with
    | none => rfl
    | some registry => exact bind_eq_map fun _ => rfl
  | line evaluator template index source =>
    refine bind_eq_map fun ref => ?_
    refine bind_eq_map fun tree => ?_
    refine bind_eq_map fun values => ?_
    cases tree.lines[index]? with
    | none => rfl
    | some line => exact bind_eq_map fun _ => rfl

theorem iterators_of_act {action : Action} {result : Session × Answer}
    (plain : action.iterator? = none) (done : session.act action = .ok result) :
    result.1.iterators = session.iterators := by
  have kept := act_withIterators session session.iterators plain
  rw [show session.withIterators session.iterators = session from rfl, done] at kept
  exact congrArg (fun found => found.1.iterators) (Except.ok.inj kept)

/-- An iterator is found behind every action that does not make another one of its name. -/
theorem lookup_act {action : Action} (kept : action.iterator? ≠ some name) :
    (session.perform (.act action)).1.iterators.lookup name = session.iterators.lookup name := by
  simp only [perform]
  cases done : session.act action with
  | error failure => rfl
  | ok result =>
    cases starts : action.iterator? with
    | none => rw [iterators_of_act starts done]
    | some key =>
      obtain ⟨template, evaluator, supply, rfl⟩ := Action.exists_start starts
      obtain ⟨iterator, -, same⟩ := exists_of_bind_ok done
      cases same
      have different : name ≠ key := fun equal => kept (equal ▸ rfl)
      simp only [lookup_setEntry, if_neg different]

namespace AgreeExcept

theorem symm (agree : AgreeExcept name session other) : AgreeExcept name other session where
  same := by
    rw [agree.same]
    rfl
  others key different := (agree.others key different).symm

theorem trans {last : Session} (first : AgreeExcept name session other)
    (second : AgreeExcept name other last) : AgreeExcept name session last where
  same := by
    rw [second.same, first.same]
    rfl
  others key different := (second.others key different).trans (first.others key different)

theorem withIterators_of (session : Session) {iterators : List (String × LineIterator)}
    (others : ∀ key, key ≠ name → iterators.lookup key = session.iterators.lookup key) :
    AgreeExcept name session (session.withIterators iterators) := ⟨rfl, others⟩

/-- Setting an iterator on both sides keeps them in agreement. -/
theorem setEntry (agree : AgreeExcept name session other) (next : Session) (key : String)
    (iterator : LineIterator) :
    AgreeExcept name (next.withIterators (Stencil.setEntry key iterator session.iterators))
      (next.withIterators (Stencil.setEntry key iterator other.iterators)) where
  same := rfl
  others found different := by
    simp only [withIterators, lookup_setEntry]
    split
    next => rfl
    next => exact agree.others found different

theorem act_start (agree : AgreeExcept name session other) (template : Option String)
    (evaluator : String) (supply : Supply) (key : String) :
    AgreeExcept name (session.perform (.act (.start template evaluator supply key))).1
        (other.perform (.act (.start template evaluator supply key))).1 ∧
      (session.perform (.act (.start template evaluator supply key))).2 =
        (other.perform (.act (.start template evaluator supply key))).2 := by
  have made : other.iterator template evaluator supply =
      session.iterator template evaluator supply := by
    rw [agree.same]
    rfl
  simp only [perform, act, made]
  cases session.iterator template evaluator supply with
  | error failure => exact ⟨agree, rfl⟩
  | ok iterator =>
    refine ⟨?_, rfl⟩
    have next := agree.setEntry session key iterator
    rw [agree.same]
    exact next

theorem act_plain (agree : AgreeExcept name session other) {action : Action}
    (plain : action.iterator? = none) :
    AgreeExcept name (session.perform (.act action)).1 (other.perform (.act action)).1 ∧
      (session.perform (.act action)).2 = (other.perform (.act action)).2 := by
  have moved := act_withIterators session other.iterators plain
  rw [← agree.same] at moved
  simp only [perform, moved]
  cases done : session.act action with
  | error failure => exact ⟨agree, rfl⟩
  | ok result =>
    refine ⟨withIterators_of result.1 fun key different => ?_, rfl⟩
    rw [iterators_of_act plain done]
    exact agree.others key different

/-- A call for the next line changes that iterator only. -/
theorem advance (session : Session) (name : String) :
    AgreeExcept name session (session.advance name).1 := by
  cases known : session.iterators.lookup name with
  | none =>
    rw [advance_unknown known]
    exact withIterators_of session fun _ _ => rfl
  | some iterator =>
    rw [advance_eq known]
    refine withIterators_of session fun key different => ?_
    rw [lookup_setEntry, if_neg different]

theorem next_other (agree : AgreeExcept name session other) {key : String} (different : key ≠ name) :
    AgreeExcept name (session.advance key).1 (other.advance key).1 ∧
      (session.advance key).2 = (other.advance key).2 := by
  have found := agree.others key different
  cases known : session.iterators.lookup key with
  | none =>
    rw [advance_unknown known, advance_unknown (found.trans known)]
    exact ⟨agree, rfl⟩
  | some iterator =>
    have line : other.nextLine iterator = session.nextLine iterator := by
      rw [agree.same]
      rfl
    rw [advance_eq known, advance_eq (found.trans known), line]
    refine ⟨?_, rfl⟩
    have next := agree.setEntry session key (session.nextLine iterator).1
    rw [agree.same]
    exact next

/-- One step keeps sessions in agreement, and only a call for the next line of the iterator is answered in
another way. -/
theorem perform (agree : AgreeExcept name session other) (step : Step) :
    AgreeExcept name (session.perform step).1 (other.perform step).1 ∧
      (step.asks name = false → (session.perform step).2 = (other.perform step).2) := by
  cases step with
  | next key =>
    by_cases same : key = name
    · subst same
      refine ⟨(advance session key).symm.trans (agree.trans (advance other key)), fun asked => ?_⟩
      simp [Step.asks] at asked
    · obtain ⟨still, answer⟩ := agree.next_other same
      exact ⟨still, fun _ => answer⟩
  | act action =>
    cases starts : action.iterator? with
    | none =>
      obtain ⟨still, answer⟩ := agree.act_plain starts
      exact ⟨still, fun _ => answer⟩
    | some key =>
      obtain ⟨template, evaluator, supply, rfl⟩ := Action.exists_start starts
      obtain ⟨still, answer⟩ := agree.act_start template evaluator supply key
      exact ⟨still, fun _ => answer⟩

/-- Along any steps, only calls for the next line of the iterator are answered in another way. -/
theorem answersTo_eq (agree : AgreeExcept name session other) (steps : List Step) :
    other.answersTo (fun step => !step.asks name) steps =
      session.answersTo (fun step => !step.asks name) steps := by
  induction steps generalizing session other with
  | nil => rfl
  | cons step rest ih =>
    obtain ⟨still, answer⟩ := agree.perform step
    rw [answersTo_cons, answersTo_cons, ih still]
    cases asked : step.asks name with
    | true => rfl
    | false => rw [answer asked]

end AgreeExcept

end Session

end Stencil
