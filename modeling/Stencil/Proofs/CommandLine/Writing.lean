import Stencil.CommandLine.Run

/-! What standard output takes of a run. Lines are written up to the first that its encoding cannot write,
and such a line ends the run as data do that cannot be used. -/

namespace Stencil.CommandLine

/-- The lines of a run, as it is meant to end. -/
def Outcome.lines : Outcome → List String
  | .ended _ => []
  | .finished _ output _ => output
  | @Outcome.broken output _ _ => output

/-- Standard output can write all of the lines. -/
def Surroundings.Takes (seen : Surroundings) (lines : List String) : Prop :=
  ∀ line ∈ lines, seen.refusal? (line ++ "\n") = none

/-- How a run ends that is meant to end in some way: in that way if standard output takes its lines, and
otherwise with the lines in front of the first that is refused. -/
inductive Ends (seen : Surroundings) (meant : Outcome) : Outcome → Prop where
  | written (taken : seen.Takes meant.lines) : Ends seen meant meant
  | refused {front : List String} {line : String} {back : List String} {words : String}
      (split : meant.lines = front ++ line :: back) (taken : seen.Takes front)
      (refuses : seen.refusal? (line ++ "\n") = some words) (traces : List String) :
      Ends seen meant (refuse "" front traces (.unwritten words))

variable {seen : Surroundings}

theorem write_outcome (seen : Surroundings) (lines : List String) :
    (seen.Takes lines ∧ seen.write lines = (lines, none)) ∨
    ∃ front line back words, lines = front ++ line :: back ∧ seen.Takes front ∧
      seen.refusal? (line ++ "\n") = some words ∧ seen.write lines = (front, some words) := by
  induction lines with
  | nil => exact .inl ⟨by simp [Surroundings.Takes], rfl⟩
  | cons first rest ih =>
    cases refused : seen.refusal? (first ++ "\n") with
    | some words =>
      refine .inr ⟨[], first, rest, words, rfl, by simp [Surroundings.Takes], refused, ?_⟩
      rw [Surroundings.write, refused]
    | none =>
      rcases ih with ⟨taken, written⟩ | ⟨front, line, back, words, rfl, taken, refuses, written⟩
      · refine .inl ⟨List.forall_mem_cons.mpr ⟨refused, taken⟩, ?_⟩
        rw [Surroundings.write, refused, written]
      · refine .inr ⟨first :: front, line, back, words, rfl,
          List.forall_mem_cons.mpr ⟨refused, taken⟩, refuses, ?_⟩
        rw [Surroundings.write, refused, written]

theorem ends_afterWriting {meant : Outcome} {lines : List String} (same : meant.lines = lines)
    (traces : List String) : Ends seen meant (afterWriting seen lines traces meant) := by
  subst same
  unfold afterWriting
  rcases write_outcome seen meant.lines with
    ⟨taken, written⟩ | ⟨front, line, back, words, split, taken, refuses, written⟩
  · rw [written]
    exact .written taken
  · rw [written]
    exact .refused split taken refuses traces

/-- A run without lines ends as it is meant to. -/
theorem ends_of_lines_eq_nil {meant : Outcome} (none : meant.lines = []) : Ends seen meant meant := by
  apply Ends.written
  rw [none]
  simp [Surroundings.Takes]

theorem lines_refuse (template : String) (output traces : List String) (refusal : Refusal) :
    (refuse template output traces refusal).lines = output := by
  unfold refuse
  cases refusal.breakage? <;> rfl

end Stencil.CommandLine
