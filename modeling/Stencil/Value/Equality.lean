import Stencil.Value.Basic

/-! Equality of values. Numbers of all kinds, and the truth values as 0 and 1, are equal when
their exact values are; a not-a-number equals nothing. Lists and tuples are never equal to each
other, and the order of a mapping's entries does not matter. -/

namespace Stencil

open Number

namespace Value

/-- The exact value of a number or truth value; the inner option is empty for a not-a-number. -/
def number? : Value → Option (Option Exact)
  | flag value => some (some (.ofInt (if value then 1 else 0)))
  | integer value => some (some (.ofInt value))
  | float value => some value.exact?
  | decimal value => some value.exact?
  | _ => none

def sameNumber (a b : Option Exact) : Bool :=
  match a, b with
  | some x, some y => x == y
  | _, _ => false

mutual

/-- Each entry of the first mapping has its counterpart in the second, where mappings of one size
are compared. -/
def same : Value → Value → Bool
  | null, null => true
  | date a, date b => a == b
  | moment a, moment b => a.same b
  | duration a, duration b => a == b
  | text a, text b => a == b
  | list a, list b => sameItems a b
  | tuple a, tuple b => sameItems a b
  | mapping a, mapping b => a.length == b.length && sameEntries a b
  | operation, operation => true
  | a, b =>
    match a.number?, b.number? with
    | some x, some y => sameNumber x y
    | _, _ => false

def sameItems : List Value → List Value → Bool
  | [], [] => true
  | a :: as, b :: bs => same a b && sameItems as bs
  | _, _ => false

def sameEntries : List (Value × Value) → List (Value × Value) → Bool
  | [], _ => true
  | (key, value) :: rest, entries =>
    entries.any (fun entry => same key entry.1 && same value entry.2) && sameEntries rest entries

end

/-- Adds an entry to entries in order; an equal key keeps its place and spelling and takes the
new value. -/
def putEntry (key value : Value) : List (Value × Value) → List (Value × Value)
  | [] => [(key, value)]
  | (known, old) :: rest =>
    if same known key then (known, value) :: rest
    else (known, old) :: putEntry key value rest

/-- Entries with pairwise different keys, added in order. -/
def collectEntries (entries : List (Value × Value)) : List (Value × Value) :=
  entries.foldl (fun known entry => putEntry entry.1 entry.2 known) []

end Value

end Stencil
