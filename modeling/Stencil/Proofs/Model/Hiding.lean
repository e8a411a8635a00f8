import Stencil.Proofs.Model.Reading

/-! Names that a class hides. Of the plain classes of an object each is asked by itself what it shows, so a
name of which the most special class makes a function or a value of its own is a member all the same if
another class shows it, and is then read as what hides it. -/

namespace Stencil

open Text

/-- The class keeps the name from templates: it makes it a function or a class, a property that cannot be
read, or a value on the level of the class. -/
inductive ModelClass.Hides (self : ModelClass) (name : String) : Prop where
  | operation (bound : self.binding? name = some .operation)
  | writeOnly (bound : self.binding? name = some .writeOnly)
  | classLevel {typeText : String} (entry : (name, typeText) ∈ self.declared)
      (level : isClassLevel typeText = true)

/-- What a class holds for all of its objects. -/
def Binding.constant? : Binding → Option Value
  | .value held => some held
  | .operation => some .operation
  | _ => none

namespace ModelClass

variable {self : ModelClass} {name : String}

theorem mem_body_of_value {value : Value} (bound : (name, .value value) ∈ self.bindings) :
    (name, .value value) ∈ self.body := by
  rw [bindings_eq, List.append_assoc, List.mem_append, List.mem_append, List.mem_map,
    List.mem_map] at bound
  rcases bound with defined | ⟨_, -, slot⟩ | ⟨_, -, item⟩
  · exact defined
  · cases slot
  · cases item

theorem binding?_of_silent (silent : self.mentions name = false) : self.binding? name = none := by
  rw [binding?, Option.map_eq_none_iff, List.find?_eq_none]
  intro entry member same
  have mentioned : self.mentions name = true :=
    mentions_of_bound (List.mem_map.mpr ⟨entry, member, by simpa using same⟩)
  rw [silent] at mentioned
  cases mentioned

end ModelClass

namespace Lineage

def isPlain (lineage : Lineage) : Bool := lineage.all (·.kind == .plain)

/-- The class makes the name a member, whatever the other classes define under it. Only a declaration on
the level of the class counts wherever it stands. -/
inductive ShownBy (lineage : Lineage) (name : String) (c : ModelClass) : Prop where
  | slot (listed : name ∈ c.slotNames)
  | property {getter : Getter} (bound : (name, .property getter) ∈ c.bindings)
  | declared {typeText : String} (entry : (name, typeText) ∈ c.declared)
      (objectLevel : name ∉ lineage.classLevelNames)
  | data {value : Value} (bound : (name, .value value) ∈ c.bindings)
      (objectLevel : name ∉ lineage.classLevelNames)

variable {lineage below above : Lineage} {c : ModelClass} {name : String}

section

variable (plain : lineage.isPlain = true)

include plain

theorem kind_of_isPlain (member : c ∈ lineage) : c.kind = .plain := by
  simpa using List.all_eq_true.mp plain c member

theorem isSchema_of_isPlain : lineage.isSchema = false := by
  rw [isSchema, List.any_eq_false]
  intro c member
  rw [ModelClass.isSchema, ModelClass.schema?, kind_of_isPlain plain member]
  exact Bool.false_ne_true

theorem isRecord_of_isPlain : lineage.isRecord = false := by
  rw [isRecord, List.any_eq_false]
  intro c member
  rw [ModelClass.isRecord, kind_of_isPlain plain member]
  decide

theorem rowFields?_of_isPlain : lineage.rowFields? = none := by
  rw [rowFields?, List.findSome?_eq_none_iff]
  intro c member
  rw [ModelClass.rowFields?, kind_of_isPlain plain (List.mem_reverse.mp member)]

theorem mem_fieldNames_of_isPlain :
    name ∈ lineage.fieldNames ↔
      name ∉ lineage.classLevelNames ∧ ∃ c ∈ lineage, name ∈ c.declared.map (·.1) := by
  rw [fieldNames, isSchema_of_isPlain plain, isRecord_of_isPlain plain, rowFields?_of_isPlain plain,
    if_neg Bool.false_ne_true, if_neg Bool.false_ne_true, List.mem_filter, List.mem_flatMap,
    Bool.not_eq_true', ← Bool.not_eq_true, List.contains_iff_mem]
  exact and_comm

theorem mem_members_iff_shown :
    name ∈ lineage.members ↔ isPublic name = true ∧ ∃ c ∈ lineage, lineage.ShownBy name c := by
  rw [mem_members_iff, mem_fieldNames_of_isPlain plain, mem_dataNames_iff, mem_propertyNames_iff]
  refine and_congr_right fun _ => ⟨?_, ?_⟩
  · rintro (⟨objectLevel, c, member, declared⟩ | ⟨c, member, slot⟩ |
      ⟨-, objectLevel, c, member, value, bound⟩ | ⟨c, member, getter, bound⟩)
    · obtain ⟨⟨_, typeText⟩, entry, rfl⟩ := List.mem_map.mp declared
      exact ⟨c, member, .declared entry objectLevel⟩
    · exact ⟨c, member, .slot slot⟩
    · exact ⟨c, member, .data bound objectLevel⟩
    · exact ⟨c, member, .property bound⟩
  · rintro ⟨c, member, shown⟩
    cases shown with
    | slot listed => exact .inr (.inl ⟨c, member, listed⟩)
    | property bound => exact .inr (.inr (.inr ⟨c, member, _, bound⟩))
    | declared entry objectLevel =>
      exact .inl ⟨objectLevel, c, member, List.mem_map_of_mem entry⟩
    | data bound objectLevel =>
      exact .inr (.inr (.inl ⟨isSchema_of_isPlain plain, objectLevel, c, member, _, bound⟩))

end

/-- A class that hides a name shows it only by what else it says of it. -/
theorem shownBy_iff_of_hides (member : c ∈ lineage) (hides : c.Hides name) :
    lineage.ShownBy name c ↔
      name ∈ c.slotNames ∨ (∃ getter, (name, .property getter) ∈ c.bindings) ∨
        name ∈ c.declared.map (·.1) ∧ name ∉ lineage.classLevelNames := by
  constructor
  · intro shown
    cases shown with
    | slot listed => exact .inl listed
    | property bound => exact .inr (.inl ⟨_, bound⟩)
    | declared entry objectLevel => exact .inr (.inr ⟨List.mem_map_of_mem entry, objectLevel⟩)
    | data bound objectLevel =>
      have valued := ModelClass.binding?_of_mem_body (ModelClass.mem_body_of_value bound)
      cases hides with
      | operation defined => rw [valued] at defined; cases defined
      | writeOnly defined => rw [valued] at defined; cases defined
      | classLevel entry level =>
        exact absurd (mem_classLevelNames_iff.mpr ⟨c, member, _, entry, level⟩) objectLevel
  · rintro (listed | ⟨getter, bound⟩ | ⟨declared, objectLevel⟩)
    · exact .slot listed
    · exact .property bound
    · obtain ⟨⟨_, typeText⟩, entry, rfl⟩ := List.mem_map.mp declared
      exact .declared entry objectLevel

section

variable (line : lineage = below ++ c :: above)
  (silent : ∀ special ∈ above, special.mentions name = false)

include line silent

/-- Classes that do not mention the name do not show it. -/
theorem exists_shown_iff_of_silent :
    (∃ special ∈ lineage, lineage.ShownBy name special) ↔
      (∃ base ∈ below, lineage.ShownBy name base) ∨ lineage.ShownBy name c := by
  have unshown : ∀ special ∈ above, ¬lineage.ShownBy name special := by
    intro special member shown
    have mentioned : special.mentions name = true := by
      cases shown with
      | slot listed => exact ModelClass.mentions_of_slot listed
      | property bound => exact ModelClass.mentions_of_bound (List.mem_map_of_mem bound)
      | declared entry => exact ModelClass.mentions_of_declared entry
      | data bound => exact ModelClass.mentions_of_bound (List.mem_map_of_mem bound)
    rw [silent special member] at mentioned
    cases mentioned
  constructor
  · rintro ⟨special, member, shown⟩
    rw [line, List.mem_append, List.mem_cons] at member
    rcases member with base | rfl | later
    · exact .inl ⟨special, base, shown⟩
    · exact .inr shown
    · exact absurd shown (unshown special later)
  · rintro (⟨base, member, shown⟩ | shown)
    · exact ⟨base, by rw [line]; exact List.mem_append_left _ member, shown⟩
    · exact ⟨c, by rw [line]; simp, shown⟩

theorem binding?_of_line {binding : Binding} (bound : c.binding? name = some binding) :
    lineage.binding? name = some binding := by
  have none : above.reverse.findSome? (·.binding? name) = none := by
    rw [List.findSome?_eq_none_iff]
    intro special member
    exact ModelClass.binding?_of_silent (silent special (List.mem_reverse.mp member))
  rw [binding?, line, List.reverse_append, List.reverse_cons, List.append_assoc,
    List.findSome?_append, none, Option.none_or, List.singleton_append, List.findSome?_cons, bound]

end

/-- A name that a class among plain ones hides, and that no more special class mentions, is a member exactly
if a class further down shows it, or the hiding class says something else of it besides. Then templates
find the function or the value on the level of the class under it. If it is no member, an object
without a value of its own under the name has no such name at all, and what is found under it belongs to
another one. -/
theorem hidden_unless_shown (line : lineage = below ++ c :: above) (plain : lineage.isPlain = true)
    (visible : isPublic name = true) (hides : c.Hides name)
    (silent : ∀ special ∈ above, special.mentions name = false) :
    (name ∈ lineage.members ↔
      (∃ base ∈ below, lineage.ShownBy name base) ∨ name ∈ c.slotNames ∨
        (∃ getter, (name, .property getter) ∈ c.bindings) ∨
        name ∈ c.declared.map (·.1) ∧ name ∉ lineage.classLevelNames) ∧
    ∀ (object : Instance) (source : Source), object.lineage = lineage →
      name ∉ object.attributes.map (·.1) → Source.ofObject object = .ok source →
      (name ∉ lineage.members → name ∉ object.names ∧ ∀ value, source.find? name = some value →
        ∃ other ∈ object.names, other ≠ name ∧ fold other = fold name) ∧
      (name ∈ lineage.members → (∀ other ∈ object.names, fold other = fold name → other = name) →
        ∀ binding value, c.binding? name = some binding → binding.constant? = some value →
          source.find? name = some (Source.memberValue (some value))) := by
  have member : c ∈ lineage := by
    rw [line]
    simp
  refine ⟨?_, ?_⟩
  · rw [mem_members_iff_shown plain, and_iff_right visible, exists_shown_iff_of_silent line silent,
      shownBy_iff_of_hides member hides]
  · rintro object source rfl unset built
    have lacks : object.Lacks name := ⟨isSchema_of_isPlain plain, unset⟩
    refine ⟨fun hidden => ?_, fun shown single binding value bound constant => ?_⟩
    · rw [← lacks.mem_names_iff] at hidden
      refine ⟨hidden, fun value found => ?_⟩
      obtain ⟨other, listed, same, -⟩ := Source.exists_read_of_find? built found
      refine ⟨other, listed, ?_, same⟩
      rintro rfl
      exact hidden listed
    · rw [← lacks.mem_names_iff] at shown
      obtain ⟨reading, read, found⟩ := Source.find?_of_mem_names built shown single
      have here := binding?_of_line line silent bound
      have constantly : object.read name = .ok (some value) := by
        cases binding with
        | value held =>
          cases constant
          exact lacks.read_value here
        | operation =>
          cases constant
          exact lacks.read_operation here
        | _ => cases constant
      rw [constantly] at read
      cases read
      exact found

/-- A declaration on the level of its class, behind a class with an attribute. -/
def limited : ModelClass :=
  ⟨.plain, [.field "limit" "ClassVar[int]" (some (.integer 2))],
    chain [(.plain, [.attribute "limit" (.integer 1), .operation "run"])]⟩

/-- An attribute that the next class declares on its own level, under a class that leaves it alone. -/
def limits : Lineage :=
  chain [(.plain, [.attribute "limit" (.integer 1), .operation "run"]), (.plain, limited.members),
    (.plain, [.attribute "size" (.integer 3)])]

/-- A declaration on the level of the class hides data, wherever that is defined. -/
theorem hidden_unless_shown_limits :
    limits.isPlain = true ∧ isPublic "limit" = true ∧ "limit" ∉ limits.members ∧
    ∃ source, Source.ofObject (.bare limits) = .ok source ∧ source.names = ["size"] ∧
      ∀ value, source.find? "limit" = some value →
        ∃ other ∈ (Instance.bare limits).names, other ≠ "limit" ∧ fold other = fold "limit" := by
  have built : Source.ofObject (.bare limits) = .ok (NameTable.empty.put "size" (.integer 3)) := rfl
  have absent : "limit" ∉ limits.members := by decide
  have hides : limited.Hides "limit" := .classLevel List.mem_cons_self (by decide)
  have line : limits = limits.take 1 ++ limited :: limits.drop 2 := rfl
  have rule := hidden_unless_shown line (by decide) (by decide) hides (by decide)
  exact ⟨by decide, by decide, absent, _, built, rfl,
    ((rule.2 _ _ rfl List.not_mem_nil built).1 absent).2⟩

/-- A method in the place of an attribute. -/
def replacing : ModelClass :=
  ⟨.plain, [.operation "x"], chain [(.plain, [.attribute "x" (.integer 1)])]⟩

/-- A value on the level of the class in the place of a property. -/
def settling : ModelClass :=
  ⟨.plain, [.field "x" "ClassVar[int]" (some (.integer 5))],
    chain [(.plain, [.property "x" (.constant (.integer 1))])]⟩

/-- Neither is kept from templates: they find the method itself, and the value on the level of the class. -/
theorem hidden_members_are_found :
    (replacing.lineage.isPlain = true ∧ isPublic "x" = true ∧ replacing.Hides "x" ∧
      "x" ∈ replacing.lineage.members ∧
      ∃ source, Source.ofObject (.bare replacing.lineage) = .ok source ∧
        source.find? "x" = some .operation) ∧
    settling.lineage.isPlain = true ∧ settling.Hides "x" ∧
      "x" ∈ settling.lineage.members ∧
      ∃ source, Source.ofObject (.bare settling.lineage) = .ok source ∧
        source.find? "x" = some (.integer 5) := by
  refine ⟨⟨by decide, by decide, .operation rfl, by decide, _, rfl, rfl⟩, by decide,
    .classLevel List.mem_cons_self (by decide), by decide, _, rfl, rfl⟩

end Lineage

end Stencil
