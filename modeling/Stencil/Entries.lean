/-! Entries under names that are told apart exactly, in the order in which they came. -/

namespace Stencil

variable {α : Type}

/-- Sets the entry of a name in its place, or behind all others. -/
def setEntry (name : String) (value : α) : List (String × α) → List (String × α)
  | [] => [(name, value)]
  | entry :: rest =>
    if entry.1 = name then (name, value) :: rest else entry :: setEntry name value rest

/-- What entries set one after the other leave. -/
def setAll (added : List (String × α)) : List (String × α) :=
  added.foldl (fun known entry => setEntry entry.1 entry.2 known) []

theorem lookup_setEntry (name key : String) (value : α) (entries : List (String × α)) :
    (setEntry name value entries).lookup key =
      if key = name then some value else entries.lookup key := by
  induction entries with
  | nil => by_cases same : key = name <;> simp [setEntry, List.lookup_cons, same, beq_false_of_ne]
  | cons entry rest ih =>
    obtain ⟨known, old⟩ := entry
    by_cases same : key = name
    · subst same
      by_cases here : known = key
      · simp [setEntry, here]
      · simpa [setEntry, List.lookup_cons, here, beq_false_of_ne (Ne.symm here)] using ih
    · by_cases here : known = name
      · simp [setEntry, List.lookup_cons, same, here, beq_false_of_ne same]
      · simp [setEntry, List.lookup_cons, same, here, ih]

end Stencil
