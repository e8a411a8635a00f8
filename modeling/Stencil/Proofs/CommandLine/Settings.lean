import Mathlib.Data.List.Forall2
import Mathlib.Data.List.Induction
import Stencil.CommandLine.Values
import Stencil.Proofs.Entries
import Stencil.Proofs.Source.Table
import Stencil.Proofs.Text.Pieces

/-! Values that pairs set. Of the pairs for one name the last counts, in the place of all values under that
name in any case, and pairs for different names do not touch each other. -/

namespace Stencil.CommandLine

open Text

/-- The pair has no equals sign, or nothing but blanks in front of one. -/
inductive IsMalformed (pair : String) : Prop where
  | unseparated (none : '=' ∉ pair.toList)
  | unnamed {front back : List Char} (split : pair.toList = front ++ '=' :: back)
      (blank : ∀ c ∈ front, isBlank c = true)

/-- The pair sets a text under a name: what stands behind the first equals sign under what stands in front of
it, the blanks at the ends of that taken away. -/
structure Sets (pair name text : String) : Prop where
  split : ∃ front, pair.toList = front ++ '=' :: text.toList ∧ '=' ∉ front ∧
    name.toList = trimmed front
  named : name ≠ ""

/-- Pairs in another order, in which those for one name in any case keep theirs. -/
inductive Reordered : List String → List String → Prop where
  | refl (pairs : List String) : Reordered pairs pairs
  | swap (front back : List String) {first second : String}
      (apart : ∀ name text other value, Sets first name text → Sets second other value →
        fold name ≠ fold other) :
      Reordered (front ++ first :: second :: back) (front ++ second :: first :: back)
  | trans {pairs middle others : List String} (first : Reordered pairs middle)
      (second : Reordered middle others) : Reordered pairs others

/-- The last of some settings under a name, in any case. -/
def lastSetting (settings : List (String × String)) (name : String) : Option (String × String) :=
  settings.findRev? fun setting => fold setting.1 == fold name

/-- The settings that no later one replaces. -/
def finalSettings : List (String × String) → List (String × String)
  | [] => []
  | setting :: rest =>
    if fold setting.1 ∈ foldedNames rest then finalSettings rest
    else setting :: finalSettings rest

namespace NamedValues

/-- The values under a name, in any case. -/
def alike (values : NamedValues) (name : String) : NamedValues :=
  values.filter fun entry => fold entry.1 == fold name

/-- The values that no setting replaces. -/
def spared (values : NamedValues) (settings : List (String × String)) : NamedValues :=
  values.filter fun entry => (lastSetting settings entry.1).isNone

end NamedValues

/-- What settings make of some values, name by name and in which order. -/
structure Overrides (values : NamedValues) (settings : List (String × String))
    (result : NamedValues) : Prop where
  set : ∀ name setting, lastSetting settings name = some setting →
    result.alike name = [(setting.1, .text setting.2)]
  kept : ∀ name, lastSetting settings name = none → result.alike name = values.alike name
  names : result.map (·.1) =
    (values.spared settings).map (·.1) ++ (finalSettings settings).map (·.1)

/-- Both are sources in which the same is found under each name, or neither is one. -/
inductive FindAlike : Except Failure Source → Except Failure Source → Prop where
  | found {source other : Source} (same : ∀ name, source.find? name = other.find? name) :
      FindAlike (.ok source) (.ok other)
  | failed (failure other : Failure) : FindAlike (.error failure) (.error other)

/-! ### Single pairs -/

theorem splitPair_cases (pair : String) :
    '=' ∉ pair.toList ∧ splitPair pair = none ∨
      ∃ front back, pair.toList = front ++ '=' :: back ∧ '=' ∉ front ∧
        splitPair pair = some (String.ofList front, String.ofList back) := by
  have cut := List.takeWhile_append_dropWhile (p := (· != '=')) (l := pair.toList)
  have plain : '=' ∉ pair.toList.takeWhile (· != '=') := by
    intro member
    simpa using List.all_eq_true.mp List.all_takeWhile _ member
  unfold splitPair
  split
  next none =>
    rw [none, List.append_nil] at cut
    exact .inl ⟨cut ▸ plain, rfl⟩
  next mark back found =>
    have first := List.head?_dropWhile_not (· != '=') pair.toList
    rw [found] at first
    have equals : mark = '=' := by simpa using first
    rw [found, equals] at cut
    exact .inr ⟨_, back, cut.symm, plain, rfl⟩

theorem takeWhile_front {front : List Char} (plain : '=' ∉ front) (back : List Char) :
    (front ++ '=' :: back).takeWhile (· != '=') = front := by
  have different : ∀ c ∈ front, (c != '=') = true := by
    intro c member
    rw [bne_iff_ne]
    rintro rfl
    exact plain member
  rw [List.takeWhile_append_of_pos different, List.takeWhile_cons_of_neg (by simp),
    List.append_nil]

/-- Only one name is set by a pair. -/
theorem Sets.name_eq {pair name text : String} (sets : Sets pair name text) :
    name = trim (String.ofList (pair.toList.takeWhile (· != '='))) := by
  obtain ⟨front, split, plain, same⟩ := sets.split
  rw [split, takeWhile_front plain, trim, String.toList_ofList, ← same, String.ofList_toList]

/-- A pair is refused exactly if it is malformed, and says what it sets otherwise. -/
theorem readPair_cases (pair : String) :
    IsMalformed pair ∧ (∃ refusal, readPair pair = .error refusal) ∨
      ¬IsMalformed pair ∧ ∃ name text, readPair pair = .ok (name, text) ∧ Sets pair name text := by
  unfold readPair
  rcases splitPair_cases pair with ⟨none, cut⟩ | ⟨front, back, split, plain, cut⟩
  · rw [cut]
    exact .inl ⟨.unseparated none, _, rfl⟩
  · have empty : trim (String.ofList front) = "" ↔ ∀ c ∈ front, isBlank c = true := by
      rw [← trimmed_eq_nil_iff, trim, String.toList_ofList, ← String.toList_inj,
        String.toList_ofList]
      rfl
    simp only [cut]
    by_cases blank : ∀ c ∈ front, isBlank c = true
    · rw [if_pos (empty.mpr blank)]
      exact .inl ⟨.unnamed split blank, _, rfl⟩
    · rw [if_neg (mt empty.mp blank)]
      refine .inr ⟨fun malformed => ?_, _, _, rfl, ⟨front, ?_, plain, ?_⟩, mt empty.mp blank⟩
      · cases malformed with
        | unseparated none => exact none (by simp [split])
        | @unnamed front' back' split' blank' =>
          have plain' : '=' ∉ front' := fun member => absurd (blank' _ member) (by decide)
          have same : front = front' := by
            rw [← takeWhile_front plain back, ← split, split', takeWhile_front plain']
          exact blank (same ▸ blank')
      · rw [split, String.toList_ofList]
      · rw [trim, String.toList_ofList, String.toList_ofList]

/-! ### Settings one after the other -/

/-- Settings made one after the other. -/
def assignAll (values : NamedValues) (settings : List (String × String)) : NamedValues :=
  settings.foldl (fun values setting => assign setting.1 setting.2 values) values

theorem applySets_cons {pair name text : String} (read : readPair pair = .ok (name, text))
    (values : NamedValues) (rest : List String) :
    applySets values (pair :: rest) = applySets (assign name text values) rest := by
  rw [applySets, read]
  rfl

theorem applySets_cons_of_error {pair : String} {refusal : Refusal}
    (read : readPair pair = .error refusal) (values : NamedValues) (rest : List String) :
    applySets values (pair :: rest) = .error refusal := by
  rw [applySets, read]
  rfl

theorem applySets_outcome (values : NamedValues) (pairs : List String) :
    (∃ pair ∈ pairs, IsMalformed pair) ∧ (∃ refusal, applySets values pairs = .error refusal) ∨
      (∀ pair ∈ pairs, ¬IsMalformed pair) ∧
        ∃ settings : List (String × String),
          List.Forall₂ (fun pair setting => Sets pair setting.1 setting.2) pairs settings ∧
          applySets values pairs = .ok (assignAll values settings) := by
  induction pairs generalizing values with
  | nil => exact .inr ⟨by simp, [], .nil, rfl⟩
  | cons pair rest ih =>
    rcases readPair_cases pair with ⟨malformed, refusal, read⟩ | ⟨formed, name, text, read, sets⟩
    · exact .inl ⟨⟨pair, List.mem_cons_self, malformed⟩, refusal,
        applySets_cons_of_error read values rest⟩
    · rw [applySets_cons read]
      rcases ih (assign name text values) with ⟨⟨other, member, malformed⟩, failed⟩ |
        ⟨others, settings, each, done⟩
      · exact .inl ⟨⟨other, List.mem_cons_of_mem pair member, malformed⟩, failed⟩
      · exact .inr ⟨List.forall_mem_cons.mpr ⟨formed, others⟩, (name, text) :: settings,
          .cons sets each, done⟩

theorem lastSetting_concat (settings : List (String × String)) (setting : String × String)
    (name : String) :
    lastSetting (settings ++ [setting]) name =
      if fold name = fold setting.1 then some setting else lastSetting settings name := by
  rw [lastSetting, findRev?_concat, lastSetting]
  exact if_congr (beq_iff_eq.trans eq_comm) rfl rfl

theorem lastSetting_congr (settings : List (String × String)) {name other : String}
    (same : fold name = fold other) : lastSetting settings name = lastSetting settings other := by
  rw [lastSetting, lastSetting, same]

theorem assignAll_concat (values : NamedValues) (settings : List (String × String))
    (setting : String × String) :
    assignAll values (settings ++ [setting]) =
      assign setting.1 setting.2 (assignAll values settings) := List.foldl_concat _ _ _ _

/-- A setting is all that is left under its name. -/
theorem alike_assign (values : NamedValues) (name text other : String) :
    NamedValues.alike (assign name text values) other =
      if fold other = fold name then [(name, .text text)] else values.alike other := by
  rw [NamedValues.alike, assign, List.filter_append, List.filter_filter]
  by_cases same : fold other = fold name
  · have none : values.filter (fun entry =>
        fold entry.1 == fold other && fold entry.1 != fold name) = [] := by
      rw [List.filter_eq_nil_iff]
      simp [same]
    rw [none, if_pos same, same]
    simp
  · have kept : values.filter (fun entry =>
        fold entry.1 == fold other && fold entry.1 != fold name) = values.alike other := by
      refine List.filter_congr fun entry _ => ?_
      by_cases here : fold entry.1 = fold other <;> simp [here, same]
    rw [kept, if_neg same]
    simp [Ne.symm same]

theorem alike_assignAll (values : NamedValues) (settings : List (String × String)) (name : String) :
    NamedValues.alike (assignAll values settings) name =
      match lastSetting settings name with
      | some setting => [(setting.1, .text setting.2)]
      | none => values.alike name := by
  induction settings using List.reverseRecOn with
  | nil => rfl
  | append_singleton settings setting ih =>
    rw [assignAll_concat, alike_assign, lastSetting_concat, ih]
    split <;> rfl

theorem finalSettings_concat (settings : List (String × String)) (setting : String × String) :
    finalSettings (settings ++ [setting]) =
      (finalSettings settings).filter (fun other => fold other.1 != fold setting.1) ++
        [setting] := by
  induction settings with
  | nil => rfl
  | cons first rest ih =>
    have listed : fold first.1 ∈ foldedNames (rest ++ [setting]) ↔
        fold first.1 ∈ foldedNames rest ∨ fold first.1 = fold setting.1 := by
      simp [foldedNames]
    rw [List.cons_append, finalSettings, finalSettings, ih]
    by_cases later : fold first.1 ∈ foldedNames rest
    · rw [if_pos (listed.mpr (.inl later)), if_pos later]
    · rw [if_neg later]
      by_cases same : fold first.1 = fold setting.1
      · rw [if_pos (listed.mpr (.inr same)), List.filter_cons_of_neg (by simp [same])]
      · rw [if_neg (mt listed.mp (not_or.mpr ⟨later, same⟩)),
          List.filter_cons_of_pos (by simp [same]), List.cons_append]

theorem spared_concat (values : NamedValues) (settings : List (String × String))
    (setting : String × String) :
    values.spared (settings ++ [setting]) =
      (values.spared settings).filter fun entry => fold entry.1 != fold setting.1 := by
  rw [NamedValues.spared, NamedValues.spared, List.filter_filter]
  refine List.filter_congr fun entry _ => ?_
  rw [lastSetting_concat]
  by_cases same : fold entry.1 = fold setting.1 <;> simp [same]

/-- The values that are spared stay in their order in front of the settings that count. -/
theorem assignAll_eq (values : NamedValues) (settings : List (String × String)) :
    assignAll values settings = values.spared settings ++
      (finalSettings settings).map fun setting => (setting.1, .text setting.2) := by
  induction settings using List.reverseRecOn with
  | nil =>
    rw [finalSettings, List.map_nil, List.append_nil]
    exact (List.filter_eq_self.mpr fun _ _ => rfl).symm
  | append_singleton settings setting ih =>
    rw [assignAll_concat, ih, assign, List.filter_append, spared_concat, finalSettings_concat,
      List.filter_map, List.map_append, List.append_assoc]
    rfl

theorem overrides_assignAll (values : NamedValues) (settings : List (String × String)) :
    Overrides values settings (assignAll values settings) where
  set name setting last := by rw [alike_assignAll, last]
  kept name none := by rw [alike_assignAll, none]
  names := by
    rw [assignAll_eq, List.map_append, List.map_map]
    rfl

/-! ### Sources -/

theorem names_mapping (values : NamedValues) : values.mapping.names = values.map (·.1) := by
  rw [Mapping.names, NamedValues.mapping, List.map_map]
  rfl

theorem foldedNames_mapping (values : NamedValues) :
    values.mapping.foldedNames = foldedNames values := by
  rw [Mapping.foldedNames, names_mapping, List.map_map]
  rfl

theorem isWritable_of_mem_mapping {values : NamedValues} :
    ∀ entry ∈ values.mapping, entry.1.isWritable = true := by
  intro entry member
  obtain ⟨known, -, rfl⟩ := List.mem_map.mp member
  rfl

theorem isClear_mapping_iff {values : NamedValues} :
    values.mapping.IsClear ↔ (foldedNames values).Nodup := by
  rw [← foldedNames_mapping]
  exact ⟨fun clear => clear.distinct, fun distinct => ⟨isWritable_of_mem_mapping, distinct⟩⟩

/-- Texts are names as they are, so values are only refused for two names that are alike. -/
theorem ofMapping_named (values : NamedValues) :
    ((foldedNames values).Nodup ∧
      ∃ source, Source.ofMapping values.mapping = .ok source ∧ source.entries = values) ∨
    ¬(foldedNames values).Nodup ∧
      ∃ name first, Source.ofMapping values.mapping = .error (.duplicateName name first) ∧
        [first, name].Sublist (values.map (·.1)) ∧ fold first = fold name := by
  rw [← isClear_mapping_iff, ← names_mapping]
  rcases Source.ofMapping_outcome values.mapping with ⟨clear, source, built, entries⟩ | ⟨failure, failed, stops⟩
  · refine .inl ⟨clear, source, built, entries.trans ?_⟩
    rw [NamedValues.mapping, List.map_map]
    exact List.map_id _
  · refine .inr ⟨stops.not_isClear, ?_⟩
    cases failure with
    | duplicateName name first => exact ⟨name, first, failed, stops.exists_collision⟩
    | unwritable =>
      cases stops with
      | unwritable split _ unshown =>
        have shown := isWritable_of_mem_mapping _ (split ▸ List.mem_append_right _ List.mem_cons_self)
        rw [unshown] at shown
        cases shown
    | _ => cases stops

theorem entries_of_ofMapping {values : NamedValues} {source : Source}
    (built : Source.ofMapping values.mapping = .ok source) : source.entries = values := by
  rcases ofMapping_named values with ⟨-, other, done, entries⟩ | ⟨-, _, _, failed, -⟩
  · rw [built] at done
    cases done
    exact entries
  · rw [built] at failed
    cases failed

theorem nodup_foldedNames_iff (values : NamedValues) :
    (foldedNames values).Nodup ↔ ∀ name, (values.alike name).length ≤ 1 := by
  have count : ∀ name, (foldedNames values).count (fold name) = (values.alike name).length := by
    intro name
    rw [foldedNames, List.count_eq_countP, List.countP_map, List.countP_eq_length_filter]
    rfl
  rw [List.nodup_iff_count_le_one]
  constructor
  · intro once name
    rw [← count]
    exact once (fold name)
  · intro once key
    by_cases listed : key ∈ foldedNames values
    · obtain ⟨entry, -, rfl⟩ := List.mem_map.mp listed
      rw [count]
      exact once entry.1
    · rw [List.count_eq_zero_of_not_mem listed]
      exact Nat.zero_le 1

theorem find?_of_ofMapping {values : NamedValues} {source : Source}
    (built : Source.ofMapping values.mapping = .ok source) (name : String) :
    source.find? name = (values.alike name).head?.map (·.2) := by
  rw [NameTable.find?, NameTable.entry?, entries_of_ofMapping built, NamedValues.alike,
    List.head?_filter]

/-- What is found depends on the values under each name only. -/
theorem findAlike_of_alike {values others : NamedValues}
    (same : ∀ name, values.alike name = others.alike name) :
    FindAlike (Source.ofMapping values.mapping) (Source.ofMapping others.mapping) := by
  have distinct : (foldedNames values).Nodup ↔ (foldedNames others).Nodup := by
    rw [nodup_foldedNames_iff, nodup_foldedNames_iff]
    exact forall_congr' fun name => by rw [same]
  rcases ofMapping_named values with ⟨once, source, built, -⟩ | ⟨twice, name, first, failed, -⟩
  · rcases ofMapping_named others with ⟨-, other, built', -⟩ | ⟨twice, -⟩
    · rw [built, built']
      exact .found fun name => by rw [find?_of_ofMapping built, find?_of_ofMapping built', same]
    · exact absurd (distinct.mp once) twice
  · rcases ofMapping_named others with ⟨once, -⟩ | ⟨-, name', first', failed', -⟩
    · exact absurd (distinct.mpr once) twice
    · rw [failed, failed']
      exact .failed _ _

/-- Names that are alike in the result are those of values that were spared. -/
theorem Overrides.collision {values result : NamedValues} {settings : List (String × String)}
    (overrides : Overrides values settings result) {failure : Failure}
    (failed : Source.ofMapping result.mapping = .error failure) :
    ∃ first name, failure = .duplicateName name first ∧
      [first, name].Sublist ((values.spared settings).map (·.1)) ∧ fold first = fold name := by
  rcases ofMapping_named result with ⟨-, source, built, -⟩ | ⟨-, name, first, refused, listed, same⟩
  · rw [built] at failed
    cases failed
  · rw [refused] at failed
    cases failed
    refine ⟨first, name, rfl, ?_, same⟩
    have both : [first, name].Sublist ((result.alike name).map (·.1)) := by
      have kept := listed.filter fun other => fold other == fold name
      rw [List.filter_map, List.filter_cons_of_pos (by simpa using same),
        List.filter_cons_of_pos (by simp), List.filter_nil] at kept
      exact kept
    cases last : lastSetting settings name with
    | some setting =>
      have length := both.length_le
      rw [overrides.set name setting last] at length
      simp at length
    | none =>
      rw [overrides.kept name last] at both
      have spared : (values.alike name).Sublist (values.spared settings) := by
        refine List.monotone_filter_right values fun entry alike => ?_
        rw [lastSetting_congr settings (eq_of_beq alike), last]
        rfl
      exact both.trans (spared.map _)

/-! ### Other orders -/

theorem applySets_congr {values others : NamedValues}
    (same : ∀ name, values.alike name = others.alike name) {pairs : List String}
    {result : NamedValues} (done : applySets values pairs = .ok result) :
    ∃ other, applySets others pairs = .ok other ∧ ∀ name, result.alike name = other.alike name := by
  induction pairs generalizing values others with
  | nil =>
    cases done
    exact ⟨others, rfl, same⟩
  | cons pair rest ih =>
    rcases readPair_cases pair with ⟨-, refusal, read⟩ | ⟨-, name, text, read, -⟩
    · rw [applySets_cons_of_error read] at done
      cases done
    · rw [applySets_cons read] at done ⊢
      exact ih (fun other => by rw [alike_assign, alike_assign, same]) done

/-- Settings for different names can change places. -/
theorem alike_assign_comm (values : NamedValues) {name other : String}
    (apart : fold name ≠ fold other) (text value key : String) :
    NamedValues.alike (assign name text (assign other value values)) key =
      NamedValues.alike (assign other value (assign name text values)) key := by
  simp only [alike_assign]
  by_cases here : fold key = fold name
  · have there : fold key ≠ fold other := fun same => apart (here.symm.trans same)
    rw [if_pos here, if_neg there, if_pos here]
  · rw [if_neg here, if_neg here]

theorem applySets_reordered {pairs others : List String} (reordered : Reordered pairs others)
    {values result : NamedValues} (done : applySets values pairs = .ok result) :
    ∃ other, applySets values others = .ok other ∧
      ∀ name, result.alike name = other.alike name := by
  induction reordered generalizing result with
  | refl => exact ⟨result, done, fun _ => rfl⟩
  | trans _ _ ih ih' =>
    obtain ⟨middle, done', same⟩ := ih done
    obtain ⟨other, done'', same'⟩ := ih' done'
    exact ⟨other, done'', fun name => (same name).trans (same' name)⟩
  | @swap front back first second apart =>
    induction front generalizing values with
    | nil =>
      rw [List.nil_append] at done ⊢
      rcases readPair_cases first with ⟨-, refusal, read⟩ | ⟨-, name, text, read, sets⟩
      · rw [applySets_cons_of_error read] at done
        cases done
      · rw [applySets_cons read] at done
        rcases readPair_cases second with ⟨-, refusal, read'⟩ | ⟨-, other, value, read', sets'⟩
        · rw [applySets_cons_of_error read'] at done
          cases done
        · rw [applySets_cons read'] at done
          rw [applySets_cons read', applySets_cons read]
          have different := apart name text other value sets sets'
          exact applySets_congr (alike_assign_comm values (Ne.symm different) value text) done
    | cons pair rest ih =>
      rw [List.cons_append] at done ⊢
      rcases readPair_cases pair with ⟨-, refusal, read⟩ | ⟨-, name, text, read, -⟩
      · rw [applySets_cons_of_error read] at done
        cases done
      · rw [applySets_cons read] at done
        rw [applySets_cons read]
        exact ih done

/-- Pairs are refused exactly if one is malformed. Otherwise the last pair for a name, in any case, gives all
that is left under it, other names keep their values, and the names that are left stand in front of those
that are set, in the order of the settings that count. So only values that no pair replaces can have names
that are alike, and pairs for different names can change places without a change in what is found. -/
theorem pairs_override (values : NamedValues) (pairs : List String) :
    ((∃ refusal, applySets values pairs = .error refusal) ↔ ∃ pair ∈ pairs, IsMalformed pair) ∧
    ∀ result, applySets values pairs = .ok result →
      (∃ settings : List (String × String),
        List.Forall₂ (fun pair setting => Sets pair setting.1 setting.2) pairs settings ∧
        Overrides values settings result ∧
        ∀ failure, Source.ofMapping result.mapping = .error failure → ∃ first name,
          failure = .duplicateName name first ∧
          [first, name].Sublist ((values.spared settings).map (·.1)) ∧ fold first = fold name) ∧
      ∀ others, Reordered pairs others → ∃ other, applySets values others = .ok other ∧
        (∀ name, result.alike name = other.alike name) ∧
        FindAlike (Source.ofMapping result.mapping) (Source.ofMapping other.mapping) := by
  rcases applySets_outcome values pairs with ⟨malformed, failed⟩ | ⟨formed, settings, each, done⟩
  · refine ⟨iff_of_true failed malformed, fun result done => ?_⟩
    obtain ⟨refusal, failed⟩ := failed
    rw [failed] at done
    cases done
  · refine ⟨iff_of_false ?_ ?_, fun result same => ?_⟩
    · rintro ⟨refusal, failed⟩
      rw [done] at failed
      cases failed
    · rintro ⟨pair, member, malformed⟩
      exact formed pair member malformed
    · obtain rfl : assignAll values settings = result := Except.ok.inj (done.symm.trans same)
      have overrides := overrides_assignAll values settings
      refine ⟨⟨settings, each, overrides, fun failure => overrides.collision⟩,
        fun others reordered => ?_⟩
      obtain ⟨other, done', agree⟩ := applySets_reordered reordered done
      exact ⟨other, done', agree, findAlike_of_alike agree⟩

/-- Two values under one name, which a pair takes the place of, and a name set twice. -/
theorem pairs_override_twice :
    ∃ result, applySets [("Name", .null), ("x", .integer 1), ("NAME", .flag true)]
        ["name = a=b", "y=", "nAME=c"] = .ok result ∧
      result.map (·.1) = ["x", "y", "nAME"] ∧
      ∃ other, applySets [("Name", .null), ("x", .integer 1), ("NAME", .flag true)]
          ["y=", "name = a=b", "nAME=c"] = .ok other ∧
        FindAlike (Source.ofMapping result.mapping) (Source.ofMapping other.mapping) := by
  have done : applySets [("Name", .null), ("x", .integer 1), ("NAME", .flag true)]
      ["name = a=b", "y=", "nAME=c"] =
        .ok [("x", .integer 1), ("y", .text ""), ("nAME", .text "c")] := by rfl
  have reordered : Reordered ["name = a=b", "y=", "nAME=c"] ["y=", "name = a=b", "nAME=c"] := by
    refine .swap [] ["nAME=c"] fun name text other value sets sets' => ?_
    rw [sets.name_eq, sets'.name_eq]
    decide
  obtain ⟨other, done', -, alike⟩ := ((pairs_override _ _).2 _ done).2 _ reordered
  exact ⟨_, done, rfl, other, done', alike⟩

end Stencil.CommandLine
