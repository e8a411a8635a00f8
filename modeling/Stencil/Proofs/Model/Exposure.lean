import Stencil.Proofs.Model.Reading
import Stencil.Proofs.Source.Table
import Stencil.Proofs.Text.Folding

/-! What a model shows of itself. Its source finds each public name, with what is read under the first of its
spellings, and no name that starts with an underscore. -/

namespace Stencil

open Text

namespace Model

def own : Model → List (String × Value)
  | .value _ => []
  | .object self => self.own

def read : Model → String → Reading
  | .value self, name => .ok (self.members.lookup name)
  | .object self, name => self.read name

/-- The declared members, then the public names that are set on the model alone. -/
def publicNames (model : Model) : List String :=
  model.members ++ (model.own.map (·.1)).filter isPublic

end Model

/-- What is found under a name: what is read under the first of some names that is alike regardless of case. -/
inductive ReadsFirst (read : String → Reading) (names : List String) (name : String) :
    Option Value → Prop where
  | missing (unknown : names.find? (fun other => fold other == fold name) = none) :
      ReadsFirst read names name none
  | found {first : String} (known : names.find? (fun other => fold other == fold name) = some first)
      {reading : Option Value} (reads : read first = .ok reading) :
      ReadsFirst read names name (some (Source.memberValue reading))

/-! ### Public names -/

theorem isPublic_eq_false_iff (name : String) :
    isPublic name = false ↔ name.toList.head? = some '_' := by
  rw [isPublic, bne_eq_false_iff_eq]

theorem isPublic_of_fold {name other : String} (same : fold name = fold other)
    (visible : isPublic name = true) : isPublic other = true := by
  rw [← Bool.not_eq_false, isPublic_eq_false_iff, ← head?_fold_eq_underscore_iff] at visible ⊢
  rwa [← same]

theorem nodup_addNames {known names : List String} (distinct : known.Nodup) :
    (addNames known names).Nodup := by
  induction names generalizing known with
  | nil => exact distinct
  | cons first rest ih =>
    rw [addNames_cons]
    apply ih
    split
    next => exact distinct
    next new =>
      have unlisted : first ∉ known := fun member => new (List.contains_iff_mem.mpr member)
      rw [← List.concat_eq_append]
      exact List.Nodup.concat unlisted distinct

/-- Names are left out only where they were there before, so the first of a kind stays the first. -/
theorem find?_addNames (known names : List String) (test : String → Bool) :
    (addNames known names).find? test = (known ++ names).find? test := by
  induction names generalizing known with
  | nil => rw [List.append_nil]; rfl
  | cons first rest ih =>
    rw [addNames_cons, ih]
    split
    next listed =>
      rw [List.find?_append, List.find?_append, List.find?_cons]
      cases passes : test first with
      | false => rfl
      | true =>
        have earlier : (known.find? test).isSome = true :=
          List.find?_isSome.mpr ⟨first, List.contains_iff_mem.mp listed, passes⟩
        obtain ⟨before, found⟩ := Option.isSome_iff_exists.mp earlier
        rw [found, Option.some_or, Option.some_or]
    next => rw [List.append_assoc, List.singleton_append]

/-- The names of the members that plain values have. -/
def valueNames : List (List String) :=
  [[], ["min", "max", "resolution"], ["resolution", "min", "max"]]

theorem names_members (value : Value) : value.members.map (·.1) ∈ valueNames := by
  cases value <;> simp [Value.members, valueNames]

theorem distinct_of_mem_valueNames : ∀ names ∈ valueNames, names.Nodup ∧ (names.map fold).Nodup := by
  decide

theorem isPublic_of_mem_publicNames {model : Model} {name : String}
    (member : name ∈ model.publicNames) : isPublic name = true := by
  rcases List.mem_append.mp member with declared | own
  · cases model with
    | object self => exact (Lineage.mem_members_iff.mp declared).1
    | value self =>
      have visible : ∀ names ∈ valueNames, ∀ name ∈ names, isPublic name = true := by decide
      exact visible _ (names_members self) name declared
  · exact (List.mem_filter.mp own).2

theorem nodup_members (model : Model) : model.members.Nodup := by
  cases model with
  | object self => exact nodup_addNames List.nodup_nil
  | value self => exact (distinct_of_mem_valueNames _ (names_members self)).1

/-! ### What is found -/

namespace ReadsFirst

variable {read : String → Reading} {names : List String} {name : String} {value : Option Value}

theorem congr {others : List String} (reads : ReadsFirst read names name value)
    (same : names.find? (fun other => fold other == fold name) =
      others.find? fun other => fold other == fold name) : ReadsFirst read others name value := by
  cases reads with
  | missing unknown => exact .missing (same ▸ unknown)
  | found known reads => exact .found (same ▸ known) reads

/-- A name in front makes no difference to names of other kinds. -/
theorem cons {first : String} (reads : ReadsFirst read names name value)
    (other : fold first ≠ fold name) : ReadsFirst read (first :: names) name value := by
  apply reads.congr
  rw [List.find?_cons_of_neg (by simpa using other)]

theorem isSome_of_mem (reads : ReadsFirst read names name value) (member : name ∈ names) :
    value.isSome = true := by
  cases reads with
  | missing unknown =>
    have different := List.find?_eq_none.mp unknown name member
    simp at different
  | found => rfl

theorem exists_of_isSome (reads : ReadsFirst read names name value) (some : value.isSome = true) :
    ∃ first ∈ names, fold first = fold name := by
  cases reads with
  | missing => cases some
  | found known =>
    exact ⟨_, List.mem_of_find?_eq_some known, by simpa using List.find?_some known⟩

end ReadsFirst

namespace Source

variable {object : Instance} {source result : Source} {names : List String}

/-- Names that are known already keep what they stand for. -/
theorem find?_of_addMembers (done : addMembers object source names = .ok result) (name : String) :
    (∀ value, source.find? name = some value → result.find? name = some value) ∧
    (source.find? name = none → ReadsFirst object.read names name (result.find? name)) := by
  induction names generalizing source with
  | nil =>
    cases done
    exact ⟨fun _ found => found, fun unknown => unknown ▸ .missing rfl⟩
  | cons first rest ih =>
    rw [addMembers] at done
    split at done
    next known =>
      obtain ⟨kept, later⟩ := ih done
      refine ⟨kept, fun unknown => (later unknown).cons fun same => ?_⟩
      rw [NameTable.contains, source.find?_congr same, unknown] at known
      cases known
    next new =>
      obtain ⟨value, reads, done⟩ := exists_of_bind_ok done
      obtain ⟨kept, later⟩ := ih done
      rw [NameTable.find?_put] at kept later
      by_cases same : fold name = fold first
      · rw [if_pos same] at kept
        refine ⟨fun value found => ?_, fun _ => ?_⟩
        · rw [NameTable.contains, ← source.find?_congr same, found] at new
          exact absurd rfl new
        · rw [kept _ rfl]
          exact .found (List.find?_cons_of_pos (by simpa using same.symm)) reads
      · rw [if_neg same] at kept later
        exact ⟨kept, fun unknown => (later unknown).cons (Ne.symm same)⟩

theorem memberValue_of_ne_null {value : Value} (held : value ≠ .null) :
    memberValue (some value) = value := by
  cases value with
  | null => exact absurd rfl held
  | _ => rfl

/-- Entries that are set one after the other are read under the names that they were set under. -/
theorem readsFirst_foldl_put {entries : List (String × Value)}
    (distinct : (foldedNames entries).Nodup) (held : ∀ entry ∈ entries, entry.2 ≠ .null)
    (name : String) :
    ReadsFirst (fun name => .ok (entries.lookup name)) (entries.map (·.1)) name
      ((entries.foldl (fun source entry => source.put entry.1 entry.2) .empty : Source).find? name) := by
  have found := NameTable.find?_foldl_put (.empty : Source) distinct name
  rw [found]
  cases known : entries.find? (fun entry => fold entry.1 == fold name) with
  | none =>
    apply ReadsFirst.missing
    rw [List.find?_map, Option.map_eq_none_iff]
    exact known
  | some entry =>
    obtain ⟨alike, front, back, split, others⟩ := List.find?_eq_some_iff_append.mp known
    have reads : entries.lookup entry.1 = some entry.2 := by
      refine List.lookup_eq_some_iff.mpr ⟨front, back, split, fun other member => ?_⟩
      rw [bne_iff_ne]
      intro same
      have different := others other member
      rw [← same, alike] at different
      cases different
    have value : some entry.2 = some (memberValue (entries.lookup entry.1)) := by
      rw [reads, memberValue_of_ne_null (held entry (List.mem_of_find?_eq_some known))]
    rw [Option.map_some, Option.some_or, value]
    refine .found ?_ rfl
    rw [List.find?_map, Option.map_eq_some_iff]
    exact ⟨entry, known, rfl⟩

theorem readsFirst_ofModel {model : Model} (built : ofModel model = .ok source) (name : String) :
    ReadsFirst model.read model.publicNames name (source.find? name) := by
  cases model with
  | object self =>
    have reads := (find?_of_addMembers built name).2 rfl
    apply reads.congr
    rw [Instance.names, find?_addNames]
    rfl
  | value self =>
    have distinct : (foldedNames self.members).Nodup := by
      have folded : foldedNames self.members = (self.members.map (·.1)).map fold := by
        rw [List.map_map]
        rfl
      rw [folded]
      exact (distinct_of_mem_valueNames _ (names_members self)).2
    have reads := readsFirst_foldl_put distinct (members_ne_null self) name
    rw [Model.publicNames, Model.members, Model.own, List.map_nil, List.filter_nil, List.append_nil]
    cases self with
    | null => cases built
    | _ =>
      cases built
      exact reads

/-- The source of a model has no name that starts with an underscore and finds nothing under such a name,
while it finds something under each declared member and each other name that is set on the model alone.
What it finds is what is read under the first public name that is alike. No member is declared twice. -/
theorem exposes_public_names {model : Model} (built : ofModel model = .ok source) :
    (∀ name, name.toList.head? = some '_' → name ∉ source.names ∧ source.find? name = none) ∧
    model.members.Nodup ∧
    (∀ name ∈ model.members, source.contains name = true) ∧
    (∀ name ∈ model.own.map (·.1), name.toList.head? ≠ some '_' → source.contains name = true) ∧
    ∀ name, ReadsFirst model.read model.publicNames name (source.find? name) := by
  have reads := readsFirst_ofModel built
  have hidden : ∀ name, name.toList.head? = some '_' → source.find? name = none := by
    intro name underscored
    by_contra found
    obtain ⟨first, known, same⟩ :=
      (reads name).exists_of_isSome (Option.isSome_iff_ne_none.mpr found)
    have visible := isPublic_of_fold same (isPublic_of_mem_publicNames known)
    rw [(isPublic_eq_false_iff name).mpr underscored] at visible
    cases visible
  refine ⟨fun name underscored => ⟨fun listed => ?_, hidden name underscored⟩,
    nodup_members model, fun name declared => ?_, fun name set plain => ?_, reads⟩
  · obtain ⟨entry, member, rfl⟩ := List.mem_map.mp listed
    have found := source.find?_of_mem member rfl
    rw [hidden entry.1 underscored] at found
    cases found
  · exact (reads name).isSome_of_mem (List.mem_append_left _ declared)
  · have visible : isPublic name = true := by
      rw [← Bool.not_eq_false, isPublic_eq_false_iff]
      exact plain
    exact (reads name).isSome_of_mem
      (List.mem_append_right _ (List.mem_filter.mpr ⟨set, visible⟩))

/-- An account whose class keeps one field for itself and gives another only to its constructor, and reads the
size from a private attribute; its owner is set once more in another case. -/
def account : Instance where
  lineage :=
    Lineage.chain
      [(.record,
          [.field "Owner" "str" none, .field "_token" "str" none,
            .field "seed" "InitVar[int]" none .argument]),
        (.plain, [.property "size" (.attribute "_size"), .operation "close"])]
  items := []
  attributes :=
    [("Owner", .text "Ada"), ("_token", .text "t"), ("_size", .integer 3), ("OWNER", .text "Eve"),
      ("note", .null)]

theorem exposes_public_names_account :
    ∃ source, ofModel (.object account) = .ok source ∧
      Model.members (.object account) = ["Owner", "size"] ∧
      source.find? "_token" = none ∧ source.find? "_TOKEN" = none ∧
      source.contains "note" = true ∧ source.find? "owner" = some (.text "Ada") := by
  have built : ofModel (.object account) = .ok
      (((NameTable.empty.put "Owner" (.text "Ada")).put "size" (.integer 3)).put "note" (.text "")) := by
    rfl
  obtain ⟨hidden, -, -, set, -⟩ := exposes_public_names built
  exact ⟨_, built, by decide, (hidden "_token" (by decide)).2, (hidden "_TOKEN" (by decide)).2,
    set "note" (by decide) (by decide), by rfl⟩

end Source

end Stencil
