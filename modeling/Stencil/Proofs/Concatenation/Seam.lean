import Mathlib.Data.List.Basic

/-! Two lists put together at a seam, where the last item of the one and the first of the other become
one item if they can. -/

namespace Stencil

variable {α : Type}

/-- The items of two lists in turn, with the two at the seam made one if they fuse. -/
def seamed (fuse : α → α → Option α) : List α → List α → List α
  | [], second => second
  | [last], next :: rest =>
    match fuse last next with
    | some whole => whole :: rest
    | none => last :: next :: rest
  | item :: others, second => item :: seamed fuse others second

variable {fuse : α → α → Option α}

@[simp] theorem seamed_nil_left (second : List α) : seamed fuse [] second = second := by
  rw [seamed]

@[simp] theorem seamed_nil_right (first : List α) : seamed fuse first [] = first := by
  induction first with
  | nil => rfl
  | cons item others ih =>
    rw [seamed, ih]
    simp

theorem seamed_of_fuses {last next whole : α} (fuses : fuse last next = some whole)
    (rest : List α) : seamed fuse [last] (next :: rest) = whole :: rest := by
  simp only [seamed, fuses]

theorem seamed_singleton_of_apart {last : α} {second : List α}
    (apart : ∀ next ∈ second.head?, fuse last next = none) :
    seamed fuse [last] second = last :: second := by
  cases second with
  | nil => rfl
  | cons next rest => simp only [seamed, apart next rfl]

/-- Only the last item of the first list is at the seam. -/
theorem seamed_cons {others : List α} (more : others ≠ []) (item : α) (second : List α) :
    seamed fuse (item :: others) second = item :: seamed fuse others second := by
  rw [seamed]
  simp [more]

theorem seamed_cons_of_apart {item : α} (apart : ∀ next, fuse item next = none)
    (others second : List α) :
    seamed fuse (item :: others) second = item :: seamed fuse others second := by
  cases others with
  | nil => rw [seamed_singleton_of_apart fun next _ => apart next, seamed_nil_left]
  | cons following rest => exact seamed_cons (List.cons_ne_nil _ _) item second

theorem length_seamed_le (first second : List α) :
    (seamed fuse first second).length ≤ first.length + second.length := by
  fun_induction seamed fuse first second with
  | case1 second => exact Nat.le_add_left _ _
  | case2 last next rest whole fuses =>
    simp only [List.length_cons, List.length_nil]
    omega
  | case3 last next rest apart =>
    simp only [List.length_cons, List.length_nil]
    omega
  | case4 item others second _ ih =>
    simp only [List.length_cons]
    omega

theorem seamed_append_of_apart {front : List α}
    (apart : ∀ last ∈ front.getLast?, ∀ next, fuse last next = none) (others second : List α) :
    seamed fuse (front ++ others) second = front ++ seamed fuse others second := by
  induction front with
  | nil => rfl
  | cons item rest ih =>
    cases rest with
    | nil => exact seamed_cons_of_apart (apart item rfl) others second
    | cons following more =>
      have nonempty : following :: more ++ others ≠ [] := List.cons_ne_nil _ _
      have later := ih fun last member => apart last (by rwa [List.getLast?_cons_cons])
      rw [List.cons_append, seamed_cons nonempty, later]
      rfl

end Stencil
