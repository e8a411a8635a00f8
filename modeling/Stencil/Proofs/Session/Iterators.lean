import Stencil.Function.Sample
import Stencil.Proofs.Function.Additions
import Stencil.Proofs.Session.Agreement

/-! Line iterators along a session. The answers that an iterator has given tell where it is: behind as many
lines, or at its end if one of the answers was no line. -/

namespace Stencil

/-- An answer that is a line. -/
def isLine : Except Failure Answer → Bool
  | .ok (.line _) => true
  | _ => false

/-- An iterator after some answers, compared with how it was made. -/
structure LineIterator.Answered (iterator made : LineIterator)
    (given : List (Except Failure Answer)) : Prop where
  evaluator : iterator.evaluator = made.evaluator
  source : iterator.source = made.source
  pending : iterator.pending = if given.all isLine then made.pending.drop given.length else []

namespace Session

variable {session : Session} {iterator made : LineIterator} {given : List (Except Failure Answer)}

theorem answered_self (made : LineIterator) : made.Answered made [] := ⟨rfl, rfl, rfl⟩

/-- The next line of an iterator is the one behind those given, with the functions of the moment. -/
theorem nextLine_of_answered (answered : iterator.Answered made given) {line : Line}
    (lines : given.all isLine = true) (next : made.pending[given.length]? = some line) :
    (session.nextLine iterator).2 =
      ((session.evaluatorNow made.evaluator).renderLine made.source line).map some := by
  have pending := answered.pending
  rw [if_pos lines, List.drop_eq_getElem_cons (List.getElem?_eq_some_iff.mp next).1,
    (List.getElem?_eq_some_iff.mp next).2] at pending
  simp only [nextLine, pending, answered.evaluator, answered.source]
  cases (session.evaluatorNow made.evaluator).renderLine made.source line <;> rfl

/-- Behind an answer that was no line, and behind the last line, nothing is left. -/
theorem nextLine_of_ended (answered : iterator.Answered made given)
    (ended : given.all isLine = false ∨ made.pending.length ≤ given.length) :
    (session.nextLine iterator).2 = .ok none := by
  have pending : iterator.pending = [] := by
    rw [answered.pending]
    split
    next lines =>
      rcases ended with other | short
      · rw [lines] at other
        cases other
      · exact List.drop_eq_nil_of_le short
    next => rfl
  rw [nextLine, pending]

theorem answered_nextLine (answered : iterator.Answered made given) :
    (session.nextLine iterator).1.Answered made
      (given ++ [(session.nextLine iterator).2.map lineAnswer]) := by
  have pending := answered.pending
  cases left : iterator.pending with
  | nil =>
    simp only [nextLine, left]
    refine ⟨answered.evaluator, answered.source, ?_⟩
    simp [left, isLine, lineAnswer, Except.map]
  | cons line rest =>
    rw [left] at pending
    have lines : given.all isLine = true := by
      cases all : given.all isLine with
      | true => rfl
      | false =>
        rw [all] at pending
        cases pending
    rw [if_pos lines] at pending
    simp only [nextLine, left]
    cases (session.evaluatorNow iterator.evaluator).renderLine iterator.source line with
    | ok text =>
      refine ⟨answered.evaluator, answered.source, ?_⟩
      have behind : rest = made.pending.drop (given.length + 1) := by
        rw [← List.tail_drop, ← pending, List.tail_cons]
      simp [lines, isLine, lineAnswer, Except.map, behind]
    | error failure =>
      refine ⟨answered.evaluator, answered.source, ?_⟩
      simp [isLine, Except.map]

/-- One step brings the iterator to where its answer tells. -/
theorem answered_perform {name : String} (known : session.iterators.lookup name = some iterator)
    (answered : iterator.Answered made given) (step : Step) (kept : step.makes name = false) :
    ∃ later, (session.perform step).1.iterators.lookup name = some later ∧
      later.Answered made (given ++ if step.asks name then [(session.perform step).2] else []) := by
  cases step with
  | act action =>
    have found : (session.perform (.act action)).1.iterators.lookup name =
        session.iterators.lookup name := lookup_act (ne_of_beq_false kept)
    refine ⟨iterator, found.trans known, ?_⟩
    rw [Step.asks, if_neg Bool.false_ne_true, List.append_nil]
    exact answered
  | next other =>
    by_cases same : other = name
    · subst same
      refine ⟨(session.nextLine iterator).1, ?_, ?_⟩
      · rw [perform, advance_eq known, lookup_setEntry, if_pos rfl]
      · rw [perform, advance_eq known, Step.asks, if_pos (beq_self_eq_true other)]
        exact answered_nextLine answered
    · refine ⟨iterator, ?_, ?_⟩
      · rw [perform, (AgreeExcept.advance session other).others name (Ne.symm same), known]
      · rw [Step.asks, beq_false_of_ne same, if_neg Bool.false_ne_true, List.append_nil]
        exact answered

theorem answered_after {name : String} (steps : List Step)
    (known : session.iterators.lookup name = some iterator)
    (answered : iterator.Answered made given) (kept : ∀ step ∈ steps, step.makes name = false) :
    ∃ later, (session.after steps).iterators.lookup name = some later ∧
      later.Answered made (given ++ session.answersTo (Step.asks name) steps) := by
  induction steps generalizing session iterator given with
  | nil =>
    refine ⟨iterator, known, ?_⟩
    rw [answersTo, List.zip_nil_left, List.filter_nil, List.map_nil, List.append_nil]
    exact answered
  | cons step rest ih =>
    obtain ⟨first, others⟩ := List.forall_mem_cons.mp kept
    obtain ⟨next, found, going⟩ := answered_perform known answered step first
    rw [answersTo_cons, ← List.append_assoc]
    exact ih found going others

/-- How an iterator of some lines goes on where it has given some answers: with the line behind as many, by
the functions that its registry holds now, or with the end. Nothing but the iterator itself changes. -/
structure GoesOn (session : Session) (name : String) (made : LineIterator)
    (given : List (Except Failure Answer)) : Prop where
  line : ∀ line, given.all isLine = true → made.pending[given.length]? = some line →
    (session.perform (.next name)).2 =
      ((session.evaluatorNow made.evaluator).renderLine made.source line).map .line
  finished : given.all isLine = false ∨ made.pending.length ≤ given.length →
    (session.perform (.next name)).2 = .ok .finished
  registries : (session.perform (.next name)).1.registries = session.registries
  others : ∀ later,
    (session.perform (.next name)).1.answersTo (fun step => !step.asks name) later =
      session.answersTo (fun step => !step.asks name) later

theorem goesOn_of_answered {name : String} (known : session.iterators.lookup name = some iterator)
    (answered : iterator.Answered made given) : session.GoesOn name made given where
  line line lines next := by
    rw [perform, advance_eq known, nextLine_of_answered answered lines next]
    cases (session.evaluatorNow made.evaluator).renderLine made.source line <;> rfl
  finished ended := by
    rw [perform, advance_eq known, nextLine_of_ended answered ended]
    rfl
  registries := by
    rw [perform, (AgreeExcept.advance session name).same]
    rfl
  others later := (AgreeExcept.advance session name).answersTo_eq later

/-- An iterator is made of the lines of a template. Behind any steps that do not make another one of its
name, it goes on with the line behind those it has given, or is at its end. -/
theorem goesOn_after_start {session begun : Session} {template evaluator name : String}
    {supply : Supply} {answer : Answer}
    (started : session.act (.start (some template) evaluator supply name) = .ok (begun, answer)) :
    ∃ tree ref source, session.templates.lookup template = some tree ∧
      session.evaluators.lookup evaluator = some ref ∧ session.supplied supply = .ok source ∧
      ∀ steps, (∀ step ∈ steps, step.makes name = false) →
        (begun.after steps).GoesOn name ⟨ref, source, tree.lines⟩
          (begun.answersTo (Step.asks name) steps) := by
  obtain ⟨iterator, made, same⟩ := exists_of_bind_ok started
  obtain ⟨ref, evaluators, made⟩ := exists_of_bind_ok made
  obtain ⟨source, supplied, made⟩ := exists_of_bind_ok made
  obtain ⟨tree, templates, made⟩ := exists_of_bind_ok made
  cases same
  cases made
  refine ⟨tree, ref, source, lookup_of_named templates, lookup_of_named evaluators, supplied, ?_⟩
  intro steps kept
  have known : (session.withIterators
      (setEntry name ⟨ref, source, tree.lines⟩ session.iterators)).iterators.lookup name =
      some ⟨ref, source, tree.lines⟩ := by
    rw [withIterators, lookup_setEntry, if_pos rfl]
  obtain ⟨later, found, answered⟩ := answered_after steps known (answered_self _) kept
  exact goesOn_of_answered found answered

/-- A session with a template of two lines that call the same function. -/
def twoCalls : Session where
  registries := [.ofAdditions [Sample.function "f" [] .first none]]
  registryNames := [("r", 0)]
  templates := [("t", ⟨[⟨[.call "F" [.property "x" ⟨3, 1, 4⟩] ⟨1, 1, 2⟩], .start⟩,
    ⟨[.call "F" [.property "x" ⟨9, 2, 4⟩] ⟨7, 2, 2⟩], ⟨6, 2, 1⟩⟩]⟩)]
  evaluators := [("e", ⟨0, {}⟩)]
  sources := [("s", NameTable.empty.put "X" (.text "abc"))]
  iterators := []

/-- The second line is rendered with the function registered in place of the first. -/
theorem goesOn_after_start_replaced :
    ∃ begun made, twoCalls.act (.start (some "t") "e" (.source "s") "i") = .ok (begun, .started) ∧
      let now := begun.after
        [.next "i", .act (.register "r" (Sample.function "F" [] .exclaim none))]
      now.GoesOn "i" made [.ok (.line "a")] ∧ (now.perform (.next "i")).2 = .ok (.line "abc!") := by
  have started : twoCalls.act (.start (some "t") "e" (.source "s") "i") = .ok (_, .started) := rfl
  obtain ⟨tree, ref, source, templates, evaluators, supplied, goesOn⟩ := goesOn_after_start started
  cases templates
  cases evaluators
  cases supplied
  have here := goesOn [.next "i", .act (.register "r" (Sample.function "F" [] .exclaim none))]
    (by simp [Step.makes, Action.iterator?])
  refine ⟨_, _, started, here, (here.line _ rfl rfl).trans ?_⟩
  rfl

end Session

end Stencil
