import Mathlib.Data.List.Induction
import Mathlib.Data.List.Nodup
import Stencil.Entries

/-! Entries set one after the other. The names are distinct, each is there once an entry of it has been set,
at the place of its first entry and with the value of its last, and what is set under other names makes no
difference to an entry. -/

namespace Stencil

variable {α : Type} {name key : String} {value : α} {entries : List (String × α)}

/-- Where what comes last counts, an item at the end decides if it passes. -/
theorem findRev?_concat (items : List α) (last : α) (passes : α → Bool) :
    (items ++ [last]).findRev? passes =
      if passes last = true then some last else items.findRev? passes := by
  rw [List.findRev?_eq_find?_reverse, List.findRev?_eq_find?_reverse, List.reverse_append,
    List.reverse_singleton, List.singleton_append, List.find?_cons]
  cases passes last <;> rfl

/-- Where what comes first counts, an item at the end is only seen if it is new. -/
theorem eraseDups_concat (names : List String) (last : String) :
    (names ++ [last]).eraseDups =
      if last ∈ names.eraseDups then names.eraseDups else names.eraseDups ++ [last] := by
  simp only [List.eraseDups_append, List.removeAll, List.filter_singleton, List.elem_eq_mem,
    List.mem_eraseDups]
  by_cases known : last ∈ names
  · simp [known]
  · simp [known, List.eraseDups_cons]

theorem setEntry_of_new (new : name ∉ entries.map (·.1)) :
    setEntry name value entries = entries ++ [(name, value)] := by
  induction entries with
  | nil => rfl
  | cons entry rest ih =>
    rw [List.map_cons, List.mem_cons, not_or] at new
    rw [setEntry, if_neg (Ne.symm new.1), ih new.2, List.cons_append]

/-- Setting an entry keeps the places of the names. -/
theorem names_setEntry :
    (setEntry name value entries).map (·.1) =
      if name ∈ entries.map (·.1) then entries.map (·.1) else entries.map (·.1) ++ [name] := by
  by_cases known : name ∈ entries.map (·.1)
  · rw [if_pos known]
    induction entries with
    | nil => cases known
    | cons entry rest ih =>
      by_cases here : entry.1 = name
      · rw [setEntry, if_pos here, List.map_cons, List.map_cons, here]
      · have later := (List.mem_cons.mp known).resolve_left (Ne.symm here)
        rw [setEntry, if_neg here, List.map_cons, List.map_cons, ih later]
  · rw [if_neg known, setEntry_of_new known, List.map_append, List.map_singleton]

theorem mem_names_setEntry :
    key ∈ (setEntry name value entries).map (·.1) ↔ key = name ∨ key ∈ entries.map (·.1) := by
  rw [names_setEntry]
  split
  next known => exact ⟨.inr, fun found => found.elim (fun same => same ▸ known) id⟩
  next => rw [List.mem_append, List.mem_singleton, or_comm]

theorem nodup_names_setEntry (distinct : (entries.map (·.1)).Nodup) :
    ((setEntry name value entries).map (·.1)).Nodup := by
  rw [names_setEntry]
  split
  next => exact distinct
  next new =>
    rw [← List.concat_eq_append]
    exact distinct.concat new

/-- Where the names are distinct, an entry is the one found under its name. -/
theorem find?_of_mem_of_nodup (distinct : (entries.map (·.1)).Nodup)
    (member : (name, value) ∈ entries) :
    entries.find? (fun entry => entry.1 == name) = some (name, value) := by
  induction entries with
  | nil => cases member
  | cons first rest ih =>
    rw [List.map_cons, List.nodup_cons] at distinct
    rcases List.mem_cons.mp member with rfl | later
    · exact List.find?_cons_of_pos (beq_self_eq_true name)
    · have other : first.1 ≠ name := by
        intro same
        rw [same] at distinct
        exact distinct.1 (List.mem_map_of_mem later)
      rw [List.find?_cons_of_neg (by simpa using other)]
      exact ih distinct.2 later

theorem setAll_concat (added : List (String × α)) (last : String × α) :
    setAll (added ++ [last]) = setEntry last.1 last.2 (setAll added) := List.foldl_concat _ _ _ _

/-- Each name has the place of the first entry under it. -/
theorem names_setAll (added : List (String × α)) :
    (setAll added).map (·.1) = (added.map (·.1)).eraseDups := by
  induction added using List.reverseRecOn with
  | nil => rfl
  | append_singleton added last ih =>
    rw [setAll_concat, names_setEntry, List.map_append, List.map_singleton, eraseDups_concat, ih]

/-- Each name has the value of the last entry under it. -/
theorem lookup_setAll (added : List (String × α)) (name : String) :
    (setAll added).lookup name = (added.findRev? (·.1 == name)).map (·.2) := by
  induction added using List.reverseRecOn with
  | nil => rfl
  | append_singleton added last ih =>
    rw [setAll_concat, lookup_setEntry, ih, findRev?_concat]
    by_cases here : last.1 = name
    · simp [here]
    · simp [here, Ne.symm here]

theorem nodup_names_setAll (added : List (String × α)) : ((setAll added).map (·.1)).Nodup := by
  induction added using List.reverseRecOn with
  | nil => exact List.nodup_nil
  | append_singleton added last ih =>
    rw [setAll_concat]
    exact nodup_names_setEntry ih

/-- Nothing is lost where the names are distinct. -/
theorem setAll_of_nodup {added : List (String × α)} (distinct : (added.map (·.1)).Nodup) :
    setAll added = added := by
  induction added using List.reverseRecOn with
  | nil => rfl
  | append_singleton added last ih =>
    rw [List.map_append, List.map_singleton, List.nodup_append'] at distinct
    have new : last.1 ∉ added.map (·.1) := fun known =>
      List.disjoint_left.mp distinct.2.2 known (List.mem_singleton_self _)
    rw [setAll_concat, ih distinct.1, setEntry_of_new new]

/-! ### Look-ups -/

end Stencil
