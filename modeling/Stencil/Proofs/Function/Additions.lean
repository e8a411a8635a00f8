import Mathlib.Data.List.Induction
import Stencil.Function.Builtin
import Stencil.Proofs.Entries
import Stencil.Proofs.NameTable

/-! What a registry shows of the functions added to it. Of those whose names fold alike the last one is
found, under its own spelling and at the place of the first. -/

namespace Stencil

open Text

/-- The last of some functions that has a name, in any spelling. -/
def lastNamed (additions : List Function) (name : String) : Option Function :=
  additions.findRev? fun function => fold function.name == fold name

/-- The folded names of some functions, each where it comes first. -/
def distinctNames (additions : List Function) : List String :=
  (additions.map fun function => fold function.name).eraseDups

theorem lastNamed_concat (additions : List Function) (function : Function) (name : String) :
    lastNamed (additions ++ [function]) name =
      if fold name = fold function.name then some function else lastNamed additions name := by
  rw [lastNamed, findRev?_concat, lastNamed]
  exact if_congr (beq_iff_eq.trans eq_comm) rfl rfl

theorem distinctNames_concat (additions : List Function) (function : Function) :
    distinctNames (additions ++ [function]) =
      if fold function.name ∈ distinctNames additions then distinctNames additions
      else distinctNames additions ++ [fold function.name] := by
  rw [distinctNames, List.map_append, List.map_singleton]
  exact eraseDups_concat _ _

theorem foldedNames_cons {α : Type} (entry : String × α) (rest : List (String × α)) :
    foldedNames (entry :: rest) = fold entry.1 :: foldedNames rest := rfl

/-- Setting an entry keeps the places of the names. -/
theorem NameTable.foldedNames_putIn {α : Type} (name : String) (value : α)
    (entries : List (String × α)) :
    foldedNames (putIn name value entries) =
      if fold name ∈ foldedNames entries then foldedNames entries
      else foldedNames entries ++ [fold name] := by
  induction entries with
  | nil => rfl
  | cons entry rest ih =>
    by_cases same : fold entry.1 = fold name
    · simp only [putIn, foldedNames_cons, same, List.mem_cons_self, if_true]
    · simp only [putIn, if_neg same, foldedNames_cons, ih, List.mem_cons, Ne.symm same, false_or]
      split
      next => rfl
      next => rw [List.cons_append]

/-- What is observed of a registry that some functions were added to, one after the other. -/
structure Registry.Reflects (registry : Registry) (additions : List Function) : Prop where
  found : ∀ name, registry.find? name = lastNamed additions name
  contained : ∀ name, registry.contains name = true ↔ registry.find? name ≠ none
  places : registry.names.map fold = distinctNames additions
  spellings : ∀ name ∈ registry.names,
    ∃ function, lastNamed additions name = some function ∧ function.name = name
  size : registry.size = (distinctNames additions).length

namespace Registry

/-- The registry of some functions, added one after the other. -/
def ofAdditions (additions : List Function) : Registry := additions.foldl add .empty

theorem ofAdditions_concat (additions : List Function) (function : Function) :
    ofAdditions (additions ++ [function]) = (ofAdditions additions).add function :=
  List.foldl_concat add .empty function additions

theorem find?_ofAdditions (additions : List Function) (name : String) :
    (ofAdditions additions).find? name = lastNamed additions name := by
  induction additions using List.reverseRecOn with
  | nil => rfl
  | append_singleton additions function ih =>
    rw [ofAdditions_concat, add, NameTable.find?_put, ih, lastNamed_concat]

theorem foldedNames_ofAdditions (additions : List Function) :
    foldedNames (ofAdditions additions).entries = distinctNames additions := by
  induction additions using List.reverseRecOn with
  | nil => rfl
  | append_singleton additions function ih =>
    rw [ofAdditions_concat, distinctNames_concat, ← ih]
    exact NameTable.foldedNames_putIn function.name function _

/-- Functions stand under their own names. -/
theorem name_of_mem_ofAdditions {additions : List Function} {entry : String × Function}
    (member : entry ∈ (ofAdditions additions).entries) : entry.2.name = entry.1 := by
  induction additions using List.reverseRecOn with
  | nil => cases member
  | append_singleton additions function ih =>
    rw [ofAdditions_concat] at member
    rcases NameTable.of_mem_putIn member with rfl | earlier
    · rfl
    · exact ih earlier

theorem reflects_ofAdditions (additions : List Function) :
    (ofAdditions additions).Reflects additions where
  found := find?_ofAdditions additions
  contained name := by
    rw [NameTable.contains, Option.isSome_iff_ne_none]
  places := by
    rw [← foldedNames_ofAdditions, NameTable.names, foldedNames, List.map_map]
    rfl
  spellings name listed := by
    obtain ⟨entry, member, rfl⟩ := List.mem_map.mp listed
    have found := (ofAdditions additions).find?_of_mem member rfl
    rw [find?_ofAdditions] at found
    exact ⟨entry.2, found, name_of_mem_ofAdditions member⟩
  size := by
    rw [← foldedNames_ofAdditions, foldedNames, List.length_map, NameTable.size]

end Registry

end Stencil
