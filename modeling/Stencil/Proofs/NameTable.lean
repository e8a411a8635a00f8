import Mathlib.Data.List.Nodup
import Stencil.NameTable

/-! What is found in tables of names. Names that fold alike find the same entry, and setting an entry
changes what is found under its own name only. -/

namespace Stencil

open Text

namespace NameTable

variable {α : Type} (table : NameTable α)

theorem find?_congr {name other : String} (same : fold name = fold other) :
    table.find? name = table.find? other := by
  rw [find?, find?, entry?, entry?, same]

/-- Names are distinct, so an entry is the one found under each spelling of its name. -/
theorem entry?_of_mem {entry : String × α} (member : entry ∈ table.entries) {name : String}
    (same : fold entry.1 = fold name) : table.entry? name = some entry := by
  obtain ⟨entries, distinct⟩ := table
  unfold entry?
  induction entries with
  | nil => cases member
  | cons first rest ih =>
    rw [foldedNames, List.map_cons, List.nodup_cons] at distinct
    rcases List.mem_cons.mp member with rfl | later
    · simp [same]
    · have other : fold first.1 ≠ fold name := by
        intro equal
        apply distinct.1
        rw [equal, ← same]
        exact List.mem_map_of_mem later
      rw [List.find?_cons_of_neg (by simpa using other)]
      exact ih distinct.2 later

theorem find?_of_mem {entry : String × α} (member : entry ∈ table.entries) {name : String}
    (same : fold entry.1 = fold name) : table.find? name = some entry.2 := by
  rw [find?, table.entry?_of_mem member same, Option.map_some]

theorem entry?_of_new {name : String} (new : fold name ∉ foldedNames table.entries) :
    table.entry? name = none := by
  unfold entry?
  rw [List.find?_eq_none]
  intro entry member same
  exact new (List.mem_map.mpr ⟨entry, member, by simpa using same⟩)

theorem find?_of_new {name : String} (new : fold name ∉ foldedNames table.entries) :
    table.find? name = none := by
  rw [find?, table.entry?_of_new new, Option.map_none]

theorem exists_of_find? {name : String} {value : α} (found : table.find? name = some value) :
    ∃ entry ∈ table.entries, fold entry.1 = fold name ∧ entry.2 = value := by
  obtain ⟨entry, same, rfl⟩ := Option.map_eq_some_iff.mp found
  exact ⟨entry, List.mem_of_find?_eq_some same, by simpa using List.find?_some same, rfl⟩

theorem find?_putIn (name key : String) (value : α) (entries : List (String × α)) :
    (putIn name value entries).find? (fun entry => fold entry.1 == fold key) =
      if fold key = fold name then some (name, value)
      else entries.find? fun entry => fold entry.1 == fold key := by
  induction entries with
  | nil => by_cases same : fold key = fold name <;> simp [putIn, same, Ne.symm]
  | cons entry rest ih =>
    by_cases here : fold entry.1 = fold name
    · by_cases same : fold key = fold name
      · simp [putIn, here, same]
      · simp [putIn, here, same, Ne.symm same]
    · simp only [putIn, if_neg here, List.find?_cons, ih]
      by_cases same : fold key = fold name
      · simp [same, beq_false_of_ne here]
      · simp [same]

theorem find?_put (name key : String) (value : α) :
    (table.put name value).find? key =
      if fold key = fold name then some value else table.find? key := by
  rw [find?, entry?, put, find?_putIn]
  split <;> rfl

/-- Of entries that are set one after the other, under names that differ regardless of case, each is found. -/
theorem find?_foldl_put {entries : List (String × α)} (distinct : (foldedNames entries).Nodup)
    (name : String) :
    (entries.foldl (fun table entry => table.put entry.1 entry.2) table).find? name =
      ((entries.find? fun entry => fold entry.1 == fold name).map (·.2)).or (table.find? name) := by
  induction entries generalizing table with
  | nil => rfl
  | cons first rest ih =>
    rw [foldedNames, List.map_cons, List.nodup_cons] at distinct
    rw [List.foldl_cons, ih (table.put first.1 first.2) distinct.2, find?_put]
    by_cases same : fold name = fold first.1
    · have later : rest.find? (fun entry => fold entry.1 == fold name) = none := by
        rw [List.find?_eq_none]
        intro entry member alike
        apply distinct.1
        rw [← same, ← eq_of_beq alike]
        exact List.mem_map_of_mem member
      rw [if_pos same, later, List.find?_cons_of_pos (by simpa using same.symm)]
      rfl
    · rw [if_neg same, List.find?_cons_of_neg (by simpa using Ne.symm same)]

/-- The same is found under each of the names. -/
def AgreesOn (table other : NameTable α) (names : List String) : Prop :=
  ∀ name ∈ names, table.find? name = other.find? name

theorem agreesOn_refl (names : List String) : table.AgreesOn table names := fun _ _ => rfl

/-- An entry of another name is not found. -/
theorem agreesOn_put {names : List String} {name : String} (value : α)
    (unused : ∀ used ∈ names, fold used ≠ fold name) :
    table.AgreesOn (table.put name value) names := by
  intro used member
  rw [find?_put, if_neg (unused used member)]

theorem putIn_of_new {name : String} {entries : List (String × α)}
    (new : fold name ∉ foldedNames entries) (value : α) :
    putIn name value entries = entries ++ [(name, value)] := by
  induction entries with
  | nil => rfl
  | cons entry rest ih =>
    rw [foldedNames, List.map_cons, List.mem_cons, not_or] at new
    rw [putIn, if_neg (Ne.symm new.1), ih new.2, List.cons_append]

theorem of_mem_putIn {name : String} {value : α} {entries : List (String × α)} {entry : String × α}
    (member : entry ∈ putIn name value entries) : entry = (name, value) ∨ entry ∈ entries := by
  induction entries with
  | nil => exact .inl (List.mem_singleton.mp member)
  | cons first rest ih =>
    rw [putIn] at member
    split at member
    · exact (List.mem_cons.mp member).imp_right (List.mem_cons_of_mem first)
    · rcases List.mem_cons.mp member with rfl | later
      · exact .inr List.mem_cons_self
      · exact (ih later).imp_right (List.mem_cons_of_mem first)

end NameTable

end Stencil
