import Stencil.Model.Read
import Stencil.Proofs.Evaluation.Basic
import Stencil.Proofs.Model.Members
import Stencil.Proofs.NameTable

/-! What is read of an object, and what its source holds. A name that is not set on the object itself is read
as its class binds it; a source holds what was read of the names of its object, and something for each of
them. -/

namespace Stencil

open Text

namespace Instance

variable {object : Instance} {name : String}

/-- Values set on an object behind others. One that its classes manage under the name is not its own. -/
def heldBehind (object : Instance) (known attributes : List (String × Value)) :
    List (String × Value) :=
  attributes.foldl
    (fun known entry =>
      match object.lineage.binding? entry.1 with
      | some binding =>
        if binding.isManaged then known else setEntry entry.1 entry.2 known
      | none => setEntry entry.1 entry.2 known)
    known

theorem held_eq (object : Instance) : object.held = object.heldBehind [] object.attributes := rfl

theorem heldBehind_cons (known : List (String × Value)) (entry : String × Value)
    (rest : List (String × Value)) :
    object.heldBehind known (entry :: rest) =
      object.heldBehind
        (match object.lineage.binding? entry.1 with
          | some binding =>
            if binding.isManaged then known else setEntry entry.1 entry.2 known
          | none => setEntry entry.1 entry.2 known)
        rest := rfl

theorem mem_names_of_heldBehind {known attributes : List (String × Value)}
    (held : name ∈ (object.heldBehind known attributes).map (·.1)) :
    name ∈ known.map (·.1) ∨ name ∈ attributes.map (·.1) := by
  induction attributes generalizing known with
  | nil => exact .inl held
  | cons entry rest ih =>
    rw [heldBehind_cons] at held
    have here : name ∈ (setEntry entry.1 entry.2 known).map (·.1) →
        name ∈ known.map (·.1) ∨ name ∈ (entry :: rest).map (·.1) := fun set =>
      (mem_names_setEntry.mp set).elim (fun same => .inr (List.mem_cons.mpr (.inl same))) .inl
    rcases ih held with before | later
    · split at before
      next =>
        split at before
        next => exact .inl before
        next => exact here before
      next => exact here before
    · exact .inr (List.mem_cons_of_mem entry.1 later)

theorem mem_attributes_of_held (held : name ∈ object.held.map (·.1)) :
    name ∈ object.attributes.map (·.1) := by
  rw [held_eq] at held
  exact (mem_names_of_heldBehind held).resolve_left List.not_mem_nil

/-- An object on which nothing is set. -/
def bare (lineage : Lineage) : Instance where
  lineage := lineage
  items := []
  attributes := []

/-- The object has no value of its own under the name. -/
structure Lacks (object : Instance) (name : String) : Prop where
  unstructured : object.lineage.isSchema = false
  unset : name ∉ object.attributes.map (·.1)

namespace Lacks

variable (lacks : object.Lacks name)

include lacks

theorem not_mem_ownNames : name ∉ object.ownNames := by
  intro own
  rw [ownNames, Instance.own, lacks.unstructured, if_neg Bool.false_ne_true, List.mem_filter] at own
  exact lacks.unset (mem_attributes_of_held own.1)

theorem mem_names_iff : name ∈ object.names ↔ name ∈ object.lineage.members := by
  rw [names, mem_addNames]
  exact or_iff_left lacks.not_mem_ownNames

theorem lookup_held : object.held.lookup name = none := by
  rw [List.lookup_eq_none_iff]
  intro entry member
  rw [bne_iff_ne]
  rintro rfl
  exact lacks.unset (mem_attributes_of_held (List.mem_map_of_mem member))

/-- A function of a class is read as it is. -/
theorem read_operation (bound : object.lineage.binding? name = some .operation) :
    object.read name = .ok (some .operation) := by
  rw [read, lacks.unstructured, if_neg Bool.false_ne_true, readWithin, bound]
  simp only [readHeld, lacks.lookup_held]

/-- A value of a class is read as it is. -/
theorem read_value {value : Value} (bound : object.lineage.binding? name = some (.value value)) :
    object.read name = .ok (some value) := by
  rw [read, lacks.unstructured, if_neg Bool.false_ne_true, readWithin, bound]
  simp only [readHeld, lacks.lookup_held]

end Lacks

end Instance

namespace Source

variable {object : Instance} {source result : Source} {names : List String} {name : String}

/-- An entry was there before, or was read of the object under one of the names. -/
theorem of_mem_addMembers (done : addMembers object source names = .ok result)
    {entry : String × Value} (member : entry ∈ result.entries) :
    entry ∈ source.entries ∨ entry.1 ∈ names ∧
      ∃ value, object.read entry.1 = .ok value ∧ entry.2 = memberValue value := by
  induction names generalizing source with
  | nil =>
    cases done
    exact .inl member
  | cons first rest ih =>
    rw [addMembers] at done
    split at done
    next => exact (ih done).imp_right fun found => ⟨List.mem_cons_of_mem first found.1, found.2⟩
    next =>
      obtain ⟨value, read, done⟩ := exists_of_bind_ok done
      rcases ih done with before | found
      · rcases NameTable.of_mem_putIn before with rfl | earlier
        · exact .inr ⟨List.mem_cons_self, value, read, rfl⟩
        · exact .inl earlier
      · exact .inr ⟨List.mem_cons_of_mem first found.1, found.2⟩

theorem contains_put (source : Source) (other : String) (value : Value)
    (known : source.contains name = true ∨ name = other) :
    (source.put other value).contains name = true := by
  rw [NameTable.contains, NameTable.find?_put]
  split
  next => rfl
  next apart =>
    rcases known with known | rfl
    · exact known
    · exact absurd rfl apart

/-- Something is found under each name, and under those that were there before. -/
theorem contains_of_addMembers (done : addMembers object source names = .ok result)
    (known : source.contains name = true ∨ name ∈ names) : result.contains name = true := by
  induction names generalizing source with
  | nil =>
    cases done
    exact known.resolve_right List.not_mem_nil
  | cons first rest ih =>
    rw [addMembers] at done
    split at done
    next there =>
      apply ih done
      rcases known with known | listed
      · exact .inl known
      · rcases List.mem_cons.mp listed with rfl | later
        exacts [.inl there, .inr later]
    next =>
      obtain ⟨value, -, done⟩ := exists_of_bind_ok done
      apply ih done
      rcases known with known | listed
      · exact .inl (contains_put source first _ (.inl known))
      · rcases List.mem_cons.mp listed with rfl | later
        exacts [.inl (contains_put source name _ (.inr rfl)), .inr later]

/-- What is found under a name was read under some spelling of it. -/
theorem exists_read_of_find? (built : ofObject object = .ok source) {value : Value}
    (found : source.find? name = some value) :
    ∃ other ∈ object.names, fold other = fold name ∧
      ∃ reading, object.read other = .ok reading ∧ value = memberValue reading := by
  obtain ⟨entry, member, same, rfl⟩ := source.exists_of_find? found
  obtain ⟨listed, read⟩ := (of_mem_addMembers built member).resolve_left List.not_mem_nil
  exact ⟨entry.1, listed, same, read⟩

/-- A name of the object that it spells in one way only is found as it is read. -/
theorem find?_of_mem_names (built : ofObject object = .ok source) (listed : name ∈ object.names)
    (single : ∀ other ∈ object.names, fold other = fold name → other = name) :
    ∃ reading, object.read name = .ok reading ∧ source.find? name = some (memberValue reading) := by
  obtain ⟨value, found⟩ := Option.isSome_iff_exists.mp (contains_of_addMembers built (.inr listed))
  obtain ⟨other, known, same, reading, read, rfl⟩ := exists_read_of_find? built found
  rw [single other known same] at read
  exact ⟨reading, read, found⟩

end Source

end Stencil
