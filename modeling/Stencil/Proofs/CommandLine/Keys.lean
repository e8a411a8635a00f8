import Stencil.CommandLine.Values
import Stencil.Proofs.Entries
import Stencil.Proofs.Source.Table

/-! Names that the keys of a mapping make. Keys are either shown one by one, or none of them is; of several keys
that make one name the first gives the place and the last the value. -/

namespace Stencil.CommandLine

/-- Each name that keys make has the place of the first of them and the value of the last. -/
structure NamesKeys (mapping : Mapping) (values : NamedValues) : Prop where
  places : values.map (·.1) = mapping.names.eraseDups
  found : ∀ name, values.lookup name =
    (mapping.findRev? fun entry => entry.1.display == name).map (·.2)

/-- All values under the names that their keys make. -/
def namedValues (mapping : Mapping) : NamedValues :=
  mapping.map fun entry => (entry.1.display, entry.2)

theorem names_namedValues (mapping : Mapping) :
    (namedValues mapping).map (·.1) = mapping.names := by
  rw [namedValues, List.map_map]
  rfl

theorem namesKeys_setAll (mapping : Mapping) : NamesKeys mapping (setAll (namedValues mapping)) where
  places := by rw [names_setAll, names_namedValues]
  found name := by
    rw [lookup_setAll, List.findRev?_eq_find?_reverse, List.findRev?_eq_find?_reverse, namedValues,
      ← List.map_reverse, List.find?_map, Option.map_map]
    rfl

theorem shownKeys_outcome (mapping : Mapping) :
    ((∀ entry ∈ mapping, entry.1.isWritable = true) ∧
      shownKeys mapping = .ok (namedValues mapping)) ∨
    ((∃ entry ∈ mapping, entry.1.isWritable = false) ∧
      shownKeys mapping = .error .unwritable) := by
  induction mapping with
  | nil => exact .inl ⟨by simp, rfl⟩
  | cons entry rest ih =>
    obtain ⟨key, value⟩ := entry
    cases shown : key.isWritable with
    | false =>
      refine .inr ⟨⟨_, List.mem_cons_self, shown⟩, ?_⟩
      rw [shownKeys, Value.shown, shown]
      rfl
    | true =>
      rcases ih with ⟨others, named⟩ | ⟨⟨entry, member, unshown⟩, failed⟩
      · refine .inl ⟨List.forall_mem_cons.mpr ⟨shown, others⟩, ?_⟩
        rw [shownKeys, Value.shown, shown, named]
        rfl
      · refine .inr ⟨⟨entry, List.mem_cons_of_mem _ member, unshown⟩, ?_⟩
        rw [shownKeys, Value.shown, shown, failed]
        rfl

theorem nameKeys_of_shown {mapping : Mapping} (shown : ∀ entry ∈ mapping, entry.1.isWritable = true) :
    nameKeys mapping = .ok (setAll (namedValues mapping)) := by
  rcases shownKeys_outcome mapping with ⟨-, named⟩ | ⟨⟨entry, member, unshown⟩, -⟩
  · rw [nameKeys, named]
    rfl
  · rw [shown entry member] at unshown
    cases unshown

theorem nameKeys_of_unshown {mapping : Mapping}
    (unshown : ∃ entry ∈ mapping, entry.1.isWritable = false) :
    nameKeys mapping = .error (.failure .unwritable) := by
  rcases shownKeys_outcome mapping with ⟨shown, -⟩ | ⟨-, failed⟩
  · obtain ⟨entry, member, unshown⟩ := unshown
    rw [shown entry member] at unshown
    cases unshown
  · rw [nameKeys, failed]
    rfl

end Stencil.CommandLine
