import Stencil.Model.Member
import Stencil.Proofs.Entries

/-! Which names are members. Every field, slot, class datum and property that is public is one, and a class
that does not mention a name adds nothing to what the other classes make of it. -/

namespace Stencil

theorem addNames_cons (known : List String) (first : String) (rest : List String) :
    addNames known (first :: rest) =
      addNames (if known.contains first then known else known ++ [first]) rest := rfl

theorem mem_addNames {known names : List String} {name : String} :
    name ∈ addNames known names ↔ name ∈ known ∨ name ∈ names := by
  induction names generalizing known with
  | nil => simp [addNames]
  | cons first rest ih =>
    rw [addNames_cons, ih, List.mem_cons]
    by_cases listed : known.contains first = true
    · have member : first ∈ known := List.contains_iff_mem.mp listed
      rw [if_pos listed]
      constructor
      · exact fun found => found.imp_right .inr
      · rintro (found | rfl | found)
        exacts [.inl found, .inl member, .inr found]
    · rw [if_neg listed, List.mem_append, List.mem_singleton, or_assoc]

namespace ModelClass

/-- The class declares the name, or binds it to a definition, a slot or an item. -/
def mentions (self : ModelClass) (name : String) : Bool :=
  (self.declared.map (·.1)).contains name || (self.bindings.map (·.1)).contains name

/-- Definitions of a class behind others, a later one in the place of an earlier one of its name. -/
def bodyBehind (known : List (String × Binding)) (members : List Member) : List (String × Binding) :=
  members.foldl
    (fun known member =>
      match member.binding? with
      | some (name, binding) => setEntry name binding known
      | none => known)
    known

/-- The bindings that the body of a class makes. -/
def body (self : ModelClass) : List (String × Binding) := bodyBehind [] self.members

variable {self : ModelClass} {name : String}

theorem bindings_eq (self : ModelClass) :
    self.bindings = self.body ++ self.slotNames.map (fun name => (name, Binding.slot)) ++
      (self.rowFields?.getD []).zipIdx.map fun (name, index) => (name, Binding.item index) := rfl

theorem names_bindings (self : ModelClass) :
    self.bindings.map (·.1) = self.body.map (·.1) ++ self.slotNames ++ self.rowFields?.getD [] := by
  rw [bindings_eq, List.map_append, List.map_append, List.map_map, List.map_map]
  congr 1
  · congr 1
    exact List.map_id _
  · exact List.zipIdx_map_fst 0 _

/-! ### The body of a class -/

theorem bodyBehind_cons (known : List (String × Binding)) (member : Member) (rest : List Member) :
    bodyBehind known (member :: rest) =
      bodyBehind
        (match member.binding? with
          | some (name, binding) => setEntry name binding known
          | none => known)
        rest := rfl

theorem nodup_names_bodyBehind {known : List (String × Binding)} {members : List Member}
    (distinct : (known.map (·.1)).Nodup) :
    ((bodyBehind known members).map (·.1)).Nodup := by
  induction members generalizing known with
  | nil => exact distinct
  | cons member rest ih =>
    rw [bodyBehind_cons]
    apply ih
    split
    next => exact nodup_names_setEntry distinct
    next => exact distinct

/-- What the body makes of a name is what the name is bound to. -/
theorem binding?_of_mem_body {binding : Binding} (defined : (name, binding) ∈ self.body) :
    self.binding? name = some binding := by
  have distinct : (self.body.map (·.1)).Nodup := nodup_names_bodyBehind List.nodup_nil
  rw [binding?, bindings_eq, List.append_assoc, List.find?_append,
    find?_of_mem_of_nodup distinct defined]
  rfl

/-! ### Mentioned names -/

theorem mentions_of_declared {typeText : String} (entry : (name, typeText) ∈ self.declared) :
    self.mentions name = true := by
  rw [mentions, List.contains_iff_mem.mpr (List.mem_map_of_mem entry), Bool.true_or]

theorem mentions_of_bound (bound : name ∈ self.bindings.map (·.1)) : self.mentions name = true := by
  rw [mentions, List.contains_iff_mem.mpr bound, Bool.or_true]

theorem mentions_of_slot (listed : name ∈ self.slotNames) : self.mentions name = true := by
  apply mentions_of_bound
  rw [names_bindings]
  exact List.mem_append_left _ (List.mem_append_right _ listed)

end ModelClass

namespace Lineage

variable {lineage : Lineage} {name : String}

theorem mem_members_iff :
    name ∈ lineage.members ↔ isPublic name = true ∧
      (name ∈ lineage.fieldNames ∨ (∃ c ∈ lineage, name ∈ c.slotNames) ∨ name ∈ lineage.dataNames ∨
        name ∈ lineage.propertyNames) := by
  rw [members, mem_addNames, List.mem_filter]
  simp only [List.not_mem_nil, false_or, List.mem_append, List.mem_flatMap, or_assoc]
  exact and_comm

theorem mem_classLevelNames_iff :
    name ∈ lineage.classLevelNames ↔
      ∃ c ∈ lineage, ∃ typeText, (name, typeText) ∈ c.declared ∧ isClassLevel typeText = true := by
  simp [classLevelNames, List.mem_flatMap]

theorem mem_dataNames_iff :
    name ∈ lineage.dataNames ↔ lineage.isSchema = false ∧ name ∉ lineage.classLevelNames ∧
      ∃ c ∈ lineage, ∃ value, (name, .value value) ∈ c.bindings := by
  have data : (∃ c ∈ lineage, name ∈ (c.bindings.filter (·.2.isData)).map (·.1)) ↔
      ∃ c ∈ lineage, ∃ value, (name, .value value) ∈ c.bindings := by
    refine exists_congr fun c => and_congr_right fun _ => ?_
    rw [List.mem_map]
    constructor
    · rintro ⟨⟨_, binding⟩, member, rfl⟩
      obtain ⟨bound, isData⟩ := List.mem_filter.mp member
      cases binding with
      | value value => exact ⟨value, bound⟩
      | _ => cases isData
    · rintro ⟨value, bound⟩
      exact ⟨(name, .value value), List.mem_filter.mpr ⟨bound, rfl⟩, rfl⟩
  rw [dataNames]
  split
  next schema => simp [schema]
  next other =>
    rw [List.mem_filter, List.mem_flatMap, data, Bool.not_eq_true', ← Bool.not_eq_true,
      List.contains_iff_mem]
    simp [other, and_comm]

theorem mem_propertyNames_iff :
    name ∈ lineage.propertyNames ↔
      ∃ c ∈ lineage, ∃ getter, (name, .property getter) ∈ c.bindings := by
  rw [propertyNames, List.mem_flatMap]
  refine exists_congr fun c => and_congr_right fun _ => ?_
  rw [List.mem_filterMap]
  constructor
  · rintro ⟨⟨_, binding⟩, bound, property⟩
    cases binding with
    | property getter =>
      cases property
      exact ⟨getter, bound⟩
    | _ => cases property
  · rintro ⟨getter, bound⟩
    exact ⟨(name, .property getter), bound, rfl⟩

end Lineage

end Stencil
