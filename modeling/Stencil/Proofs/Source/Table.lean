import Stencil.Data
import Stencil.Evaluate
import Stencil.Proofs.Evaluation.Basic
import Stencil.Proofs.NameTable

/-! Sources as tables. A mapping whose keys all have names, which differ regardless of case, is shown entry by
entry, and any other is refused. The source made of a model is that of a mapping: of its names to what is
found under them. -/

namespace Stencil

open Text

/-- The names that the keys make. -/
def Mapping.names (mapping : Mapping) : List String := mapping.map fun entry => entry.1.display

/-- The names that the keys make, regardless of case. -/
def Mapping.foldedNames (mapping : Mapping) : List String := mapping.names.map fold

/-- All keys have display forms, and these differ regardless of case. -/
structure Mapping.IsClear (mapping : Mapping) : Prop where
  shown : ∀ entry ∈ mapping, entry.1.isWritable = true
  distinct : mapping.foldedNames.Nodup

/-- Why the first key behind some that are clear cannot be added to them. -/
inductive Mapping.Stops (mapping : Mapping) : Failure → Prop where
  | unwritable {front : Mapping} {entry : Value × Value} {back : Mapping}
      (split : mapping = front ++ entry :: back) (clear : front.IsClear)
      (unshown : entry.1.isWritable = false) : Stops mapping .unwritable
  | collision {front : Mapping} {entry : Value × Value} {back : Mapping} {first : String}
      (split : mapping = front ++ entry :: back) (clear : front.IsClear)
      (shown : entry.1.isWritable = true) (listed : first ∈ front.names)
      (same : fold first = fold entry.1.display) :
      Stops mapping (.duplicateName entry.1.display first)

namespace Source

/-- The source has the names of the keys, and under each spelling of them the value of the key. -/
structure Tabulates (source : Source) (mapping : Mapping) : Prop where
  names : source.names = mapping.names
  found : ∀ entry ∈ mapping, ∀ name, fold entry.1.display = fold name →
    source.find? name = some entry.2
  missing : ∀ name, fold name ∉ mapping.foldedNames → source.find? name = none

/-- The names of a source with the values found under them. -/
def asMapping (source : Source) : Mapping :=
  source.names.map fun name => (.text name, (source.find? name).getD .null)

/-! ### Sources of mappings -/

section

variable {source : Source} {mapping : Mapping} {name : String} {value : Value}

theorem addNew_of_new (new : fold name ∉ Stencil.foldedNames source.entries) :
    source.addNew name value = .ok (source.put name value) := by
  rw [addNew, source.entry?_of_new new]

theorem addNew_of_known {entry : String × Value} (member : entry ∈ source.entries)
    (same : fold entry.1 = fold name) :
    source.addNew name value = .error (.duplicateName name entry.1) := by
  rw [addNew, source.entry?_of_mem member same]

theorem names_of_entries
    (entries : source.entries = mapping.map fun entry => (entry.1.display, entry.2)) :
    source.names = mapping.names := by
  rw [NameTable.names, entries, List.map_map]
  rfl

theorem foldedNames_of_names (same : source.names = mapping.names) :
    Stencil.foldedNames source.entries = mapping.foldedNames := by
  rw [Mapping.foldedNames, ← same, NameTable.names, List.map_map]
  rfl

theorem tabulates_of_entries
    (entries : source.entries = mapping.map fun entry => (entry.1.display, entry.2)) :
    source.Tabulates mapping where
  names := names_of_entries entries
  found entry member name same := by
    have listed : (entry.1.display, entry.2) ∈ source.entries := by
      rw [entries]
      exact List.mem_map_of_mem member
    exact source.find?_of_mem listed same
  missing name new := by
    rw [← foldedNames_of_names (names_of_entries entries)] at new
    exact source.find?_of_new new

theorem addAll_of_unshown {key : Value} (unshown : key.isWritable = false) (rest : Mapping) :
    source.addAll ((key, value) :: rest) = .error .unwritable := by
  rw [addAll, Value.shown, unshown]
  rfl

theorem addAll_of_shown {key : Value} (shown : key.isWritable = true) (rest : Mapping) :
    source.addAll ((key, value) :: rest) =
      source.addNew key.display value >>= fun source => source.addAll rest := by
  rw [addAll, Value.shown, shown]
  rfl

/-- Keys are added to the entries of others up to the first that makes no name or one that is taken. -/
theorem addAll_outcome {front : Mapping} (clear : front.IsClear)
    (entries : source.entries = front.map fun entry => (entry.1.display, entry.2)) (rest : Mapping) :
    ((front ++ rest).IsClear ∧ ∃ result, source.addAll rest = .ok result ∧
      result.entries = (front ++ rest).map fun entry => (entry.1.display, entry.2)) ∨
    ∃ failure, source.addAll rest = .error failure ∧ (front ++ rest).Stops failure := by
  induction rest generalizing source front with
  | nil =>
    rw [List.append_nil]
    exact .inl ⟨clear, source, rfl, entries⟩
  | cons entry rest ih =>
    obtain ⟨key, value⟩ := entry
    cases shown : key.isWritable with
    | false => exact .inr ⟨_, addAll_of_unshown shown rest, .unwritable rfl clear shown⟩
    | true =>
      rw [addAll_of_shown shown]
      by_cases known : fold key.display ∈ Stencil.foldedNames source.entries
      · obtain ⟨entry, member, same⟩ := List.mem_map.mp known
        have listed : entry.1 ∈ front.names := by
          rw [← names_of_entries entries]
          exact List.mem_map_of_mem member
        rw [addNew_of_known member same]
        exact .inr ⟨_, rfl, .collision rfl clear shown listed same⟩
      · have longer : (source.put key.display value).entries =
            (front ++ [(key, value)]).map fun entry => (entry.1.display, entry.2) := by
          rw [List.map_append, ← entries]
          exact NameTable.putIn_of_new known value
        have distinct := (source.put key.display value).distinct
        rw [foldedNames_of_names (names_of_entries longer)] at distinct
        have clear' : Mapping.IsClear (front ++ [(key, value)]) :=
          ⟨List.forall_mem_append.mpr ⟨clear.shown, by simpa using shown⟩, distinct⟩
        have later := ih clear' longer
        rw [List.append_assoc, List.singleton_append] at later
        rw [addNew_of_new known]
        exact later

/-- A mapping is either shown entry by entry, or refused at the first key that is not clear. -/
theorem ofMapping_outcome (mapping : Mapping) :
    (mapping.IsClear ∧ ∃ source, ofMapping mapping = .ok source ∧
      source.entries = mapping.map fun entry => (entry.1.display, entry.2)) ∨
    ∃ failure, ofMapping mapping = .error failure ∧ mapping.Stops failure := by
  have clear : Mapping.IsClear [] := ⟨by simp, List.nodup_nil⟩
  exact addAll_outcome clear rfl mapping

end

end Source

namespace Mapping

variable {mapping : Mapping}

/-- Two names at different places that are alike. -/
theorem Stops.exists_collision {name first : String}
    (stops : mapping.Stops (.duplicateName name first)) :
    [first, name].Sublist mapping.names ∧ fold first = fold name := by
  cases stops with
  | collision split clear shown listed same =>
    refine ⟨?_, same⟩
    rw [split, names, List.map_append, List.map_cons]
    exact (List.singleton_sublist.mpr listed).append
      (List.singleton_sublist.mpr List.mem_cons_self)

theorem Stops.not_isClear {failure : Failure} (stops : mapping.Stops failure) : ¬mapping.IsClear := by
  intro clear
  cases stops with
  | unwritable split _ unshown =>
    have shown := clear.shown _ (split ▸ List.mem_append_right _ List.mem_cons_self)
    rw [unshown] at shown
    cases shown
  | collision split front shown listed same =>
    obtain ⟨listed, same⟩ := (Stops.collision split front shown listed same).exists_collision
    have twice := listed.map fold
    rw [List.map_cons, List.map_singleton, same] at twice
    exact List.nodup_iff_sublist.mp clear.distinct _ twice

theorem not_isClear_iff :
    ¬mapping.IsClear ↔
      (∃ entry ∈ mapping, entry.1.isWritable = false) ∨ ¬mapping.foldedNames.Nodup := by
  constructor
  · intro unclear
    by_cases shown : ∀ entry ∈ mapping, entry.1.isWritable = true
    · exact .inr fun distinct => unclear ⟨shown, distinct⟩
    · left
      simpa using shown
  · rintro (⟨entry, member, unshown⟩ | twice) clear
    · rw [clear.shown entry member] at unshown
      cases unshown
    · exact twice clear.distinct

end Mapping

namespace Source

section

variable {source : Source} {mapping : Mapping} {name : String} {value : Value}

theorem exists_ofMapping_iff (mapping : Mapping) :
    (∃ source, ofMapping mapping = .ok source) ↔ mapping.IsClear := by
  rcases ofMapping_outcome mapping with ⟨clear, source, built, -⟩ | ⟨failure, failed, stops⟩
  · exact iff_of_true ⟨source, built⟩ clear
  · rw [failed]
    exact iff_of_false (by simp) stops.not_isClear

/-! ### Sources of models -/

theorem asMapping_eq (source : Source) :
    source.asMapping = source.entries.map fun entry => (.text entry.1, entry.2) := by
  rw [asMapping, NameTable.names, List.map_map]
  refine List.map_congr_left fun entry member => ?_
  rw [Function.comp_apply, source.find?_of_mem member rfl, Option.getD_some]

theorem names_asMapping (source : Source) : source.asMapping.names = source.names := by
  rw [asMapping_eq, Mapping.names, List.map_map]
  rfl

/-- Nothing is lost on the way to a mapping and back. -/
theorem ofMapping_asMapping (source : Source) : ofMapping source.asMapping = .ok source := by
  have clear : source.asMapping.IsClear := by
    refine ⟨?_, ?_⟩
    · rw [asMapping_eq]
      intro entry member
      obtain ⟨known, -, rfl⟩ := List.mem_map.mp member
      rfl
    · rw [← foldedNames_of_names source.names_asMapping.symm]
      exact source.distinct
  rcases ofMapping_outcome source.asMapping with ⟨-, other, done, entries⟩ | ⟨_, -, stops⟩
  · have same : other.entries = source.entries := by
      rw [entries, asMapping_eq, List.map_map]
      exact List.map_id _
    obtain ⟨_, _⟩ := other
    obtain ⟨_, _⟩ := source
    subst same
    exact done
  · exact absurd clear stops.not_isClear

/-- No entry is null. -/
def IsFilled (source : Source) : Prop := ∀ entry ∈ source.entries, entry.2 ≠ .null

theorem memberValue_ne_null (value : Option Value) : memberValue value ≠ .null := by
  cases value with
  | none => simp [memberValue]
  | some value => cases value <;> simp [memberValue]

theorem members_ne_null (value : Value) : ∀ entry ∈ value.members, entry.2 ≠ .null := by
  cases value <;> simp [Value.members]

namespace IsFilled

theorem empty : IsFilled .empty := fun _ member => absurd member List.not_mem_nil

theorem put (filled : source.IsFilled) (name : String) (held : value ≠ .null) :
    IsFilled (NameTable.put source name value) := by
  intro entry member
  rcases NameTable.of_mem_putIn member with rfl | member
  · exact held
  · exact filled entry member

theorem addMembers {object : Instance} {names : List String} {result : Source}
    (filled : source.IsFilled) (done : addMembers object source names = .ok result) :
    result.IsFilled := by
  induction names generalizing source with
  | nil =>
    cases done
    exact filled
  | cons name rest ih =>
    rw [Source.addMembers] at done
    split at done
    next => exact ih filled done
    next =>
      obtain ⟨value, -, done⟩ := exists_of_bind_ok done
      exact ih (filled.put name (memberValue_ne_null value)) done

theorem foldl_put {entries : List (String × Value)} (filled : source.IsFilled)
    (each : ∀ entry ∈ entries, entry.2 ≠ .null) :
    IsFilled (entries.foldl (fun source entry => source.put entry.1 entry.2) source) := by
  induction entries generalizing source with
  | nil => exact filled
  | cons entry rest ih =>
    obtain ⟨first, later⟩ := List.forall_mem_cons.mp each
    exact ih (filled.put entry.1 first) later

theorem ofModel {model : Model} (built : ofModel model = .ok source) : source.IsFilled := by
  cases model with
  | object object => exact empty.addMembers built
  | value value =>
    have each := members_ne_null value
    cases value with
    | null => cases built
    | _ =>
      cases built
      exact empty.foldl_put each

theorem find?_ne_null (filled : source.IsFilled) (name : String) :
    source.find? name ≠ some .null := by
  intro found
  obtain ⟨entry, member, -, same⟩ := source.exists_of_find? found
  exact filled entry member same

end IsFilled

end

/-- A mapping is refused exactly if one of its keys has no display form or two of them make names that are
alike, at the first such key, and is shown entry by entry otherwise, null values included. The source that a
model makes has names that differ regardless of case and no null values. It is the source of the mapping of
these names to what is found under them, so a template cannot tell the model from that mapping. -/
theorem sources_are_tables :
    (∀ mapping : Mapping,
      ((∃ failure, ofMapping mapping = .error failure) ↔
        (∃ entry ∈ mapping, entry.1.isWritable = false) ∨ ¬mapping.foldedNames.Nodup) ∧
      (∀ failure, ofMapping mapping = .error failure → mapping.Stops failure) ∧
      ((∀ entry ∈ mapping, entry.1.isWritable = true) → mapping.foldedNames.Nodup →
        ∃ source, ofMapping mapping = .ok source ∧ source.Tabulates mapping)) ∧
    ∀ model source, ofModel model = .ok source →
      (source.names.map fold).Nodup ∧ (∀ name, source.find? name ≠ some .null) ∧
      (∃ table, ofMapping source.asMapping = .ok table ∧ table.names = source.names ∧
        ∀ name, table.find? name = source.find? name) ∧
      ∀ (self : Evaluator) (template : Template),
        (Data.model model).direct.map (self.render template) =
          (Data.mapping source.asMapping).direct.map (self.render template) := by
  refine ⟨fun mapping => ?_, fun model source built => ?_⟩
  · rw [← Mapping.not_isClear_iff]
    rcases ofMapping_outcome mapping with ⟨clear, source, done, entries⟩ | ⟨failure, failed, stops⟩
    · rw [done]
      exact ⟨by simp [clear], by simp, fun _ _ => ⟨source, rfl, tabulates_of_entries entries⟩⟩
    · rw [failed]
      refine ⟨iff_of_true ⟨failure, rfl⟩ stops.not_isClear, ?_, fun shown distinct =>
        absurd ⟨shown, distinct⟩ stops.not_isClear⟩
      rintro _ ⟨⟩
      exact stops
  · have distinct : (source.names.map fold).Nodup := by
      rw [NameTable.names, List.map_map]
      exact source.distinct
    have again := source.ofMapping_asMapping
    refine ⟨distinct, (IsFilled.ofModel built).find?_ne_null, ⟨source, again, rfl, fun _ => rfl⟩, ?_⟩
    intro self template
    rw [Data.direct, Data.direct, built, again]

/-- Two classes, of which one says more of the name of the other in another case, and an object with a value
that is null and one that is false. -/
def draft : Instance where
  lineage :=
    Lineage.chain
      [(.plain, [.field "title" "str" none, .attribute "Tag" (.text "t")]),
        (.plain,
          [.property "TITLE" (.constant (.text "never read")), .property "size" (.attribute "n")])]
  items := []
  attributes := [("title", .null), ("n", .integer 0), ("done", .flag false)]

/-- The source of `draft`. -/
def draftSource : Source :=
  ((((NameTable.empty.put "title" (.text "")).put "Tag" (.text "t")).put "size" (.integer 0)).put "n"
    (.integer 0)).put "done" (.flag false)

theorem sources_are_tables_draft :
    (∃ source, ofMapping [(.integer 1, .null), (.text "Straße", .flag false)] = .ok source ∧
      source.Tabulates [(.integer 1, .null), (.text "Straße", .flag false)]) ∧
    (∃ failure,
      ofMapping [(.null, .null), (.flag true, .null), (.text "NONE", .null)] = .error failure) ∧
    ofModel (.object draft) = .ok draftSource ∧
    ∃ table, ofMapping draftSource.asMapping = .ok table ∧ table.names = draftSource.names ∧
      ∀ name, table.find? name = draftSource.find? name := by
  have built : ofModel (.object draft) = .ok draftSource := by rfl
  refine ⟨(sources_are_tables.1 _).2.2 (by decide +kernel) (by decide +kernel), ?_, built, ?_⟩
  · exact (sources_are_tables.1 _).1.mpr (.inr (by decide +kernel))
  · exact (sources_are_tables.2 _ _ built).2.2.1

/-- A whole number with 4301 digits. -/
def longKey : Mapping := [(.integer (.ofNat (Nat.pow 10 4300)), .null)]

/-- It is no name, so that a mapping is refused although it has only one key. -/
theorem unwritable_keys_are_refused :
    longKey.foldedNames.Nodup ∧ ofMapping longKey = .error .unwritable := by
  have unshown : Value.isWritable (.integer (.ofNat (Nat.pow 10 4300))) = false := by decide +kernel
  exact ⟨List.nodup_singleton _, addAll_of_unshown unshown []⟩

end Source

end Stencil
