import Stencil.Text.Case

/-! Tables of entries under names that are told apart regardless of case. The entries keep the
order in which their names first came, under the spelling that came last. -/

namespace Stencil

open Text

/-- The folded names of entries. -/
def foldedNames {α : Type} (entries : List (String × α)) : List String :=
  entries.map fun entry => fold entry.1

structure NameTable (α : Type) where
  entries : List (String × α)
  distinct : (foldedNames entries).Nodup

namespace NameTable

variable {α : Type}

def empty : NameTable α := ⟨[], List.nodup_nil⟩

/-- The entry of a name, with the name as it was given. -/
def entry? (table : NameTable α) (name : String) : Option (String × α) :=
  table.entries.find? fun entry => fold entry.1 == fold name

def find? (table : NameTable α) (name : String) : Option α := (table.entry? name).map (·.2)

def contains (table : NameTable α) (name : String) : Bool := (table.find? name).isSome

def names (table : NameTable α) : List String := table.entries.map (·.1)

def size (table : NameTable α) : Nat := table.entries.length

/-- Sets the entry of a name in its place, or behind all others if the name is new. -/
def putIn (name : String) (value : α) : List (String × α) → List (String × α)
  | [] => [(name, value)]
  | entry :: rest =>
    if fold entry.1 = fold name then (name, value) :: rest
    else entry :: putIn name value rest

theorem mem_foldedNames_putIn {name : String} {value : α} {entries : List (String × α)}
    {key : String} :
    key ∈ foldedNames (putIn name value entries) ↔ key = fold name ∨ key ∈ foldedNames entries := by
  induction entries with
  | nil => simp [putIn, foldedNames]
  | cons entry rest ih =>
    by_cases same : fold entry.1 = fold name
    · simp only [putIn, same, if_true, foldedNames, List.map_cons, List.mem_cons]
      exact ⟨fun h => h.elim .inl fun h => .inr (.inr h), fun h => h.elim .inl id⟩
    · simp only [foldedNames] at ih
      simp only [putIn, same, if_false, foldedNames, List.map_cons, List.mem_cons, ih]
      exact or_left_comm

theorem nodup_putIn (name : String) (value : α) {entries : List (String × α)}
    (distinct : (foldedNames entries).Nodup) : (foldedNames (putIn name value entries)).Nodup := by
  induction entries with
  | nil => simp [putIn, foldedNames]
  | cons entry rest ih =>
    simp only [foldedNames, List.map_cons, List.nodup_cons] at distinct
    by_cases same : fold entry.1 = fold name
    · simp only [putIn, same, if_true, foldedNames, List.map_cons, List.nodup_cons]
      rw [← same]
      exact distinct
    · simp only [putIn, same, if_false, foldedNames, List.map_cons, List.nodup_cons]
      refine ⟨fun member => ?_, ih distinct.2⟩
      rcases mem_foldedNames_putIn.mp member with equal | member
      · exact same equal
      · exact distinct.1 member

def put (table : NameTable α) (name : String) (value : α) : NameTable α :=
  ⟨putIn name value table.entries, nodup_putIn name value table.distinct⟩

end NameTable

end Stencil
