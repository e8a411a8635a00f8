import Stencil.Failure
import Stencil.NameTable
import Stencil.Value.Equality

/-! Sources of named values, from which holes take their values. -/

namespace Stencil

/-- The display form, unless a number in it is too long. -/
def Value.shown (value : Value) : Except Failure String :=
  if value.isWritable then .ok value.display else .error .unwritable

/-- Values by name, regardless of case. -/
abbrev Source := NameTable Value

/-- A mapping with keys of any kind, in order. Its keys are pairwise different as values. -/
abbrev Mapping := List (Value × Value)

namespace Source

/-- Adds a name that must be new. -/
def addNew (source : Source) (name : String) (value : Value) : Except Failure Source :=
  match source.entry? name with
  | some entry => .error (.duplicateName name entry.1)
  | none => .ok (source.put name value)

def addAll : Source → Mapping → Except Failure Source
  | source, [] => .ok source
  | source, (key, value) :: rest => do
    let name ← key.shown
    let source ← source.addNew name value
    addAll source rest

/-- The display forms of the keys are the names. A key without one is refused, and so are two keys
whose forms differ in case only, since they could not be told apart. -/
def ofMapping (mapping : Mapping) : Except Failure Source := addAll .empty mapping

end Source

end Stencil
