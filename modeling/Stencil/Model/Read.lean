import Stencil.Model.Member

/-! Reading members of objects, and the source of named values that an object makes. -/

namespace Stencil

/-- The result of reading a member: nothing where there is no such member. -/
abbrev Reading := Except Failure (Option Value)

/-- What a getter gives, given how other members are read. -/
def Getter.result (others : String → Reading) : Getter → Reading
  | .constant value => .ok (some value)
  | .attribute name => others name
  | .absent => .ok none
  | .broken message => .error (.brokenGetter message)
  | .reported message => .error (.template (.evaluation (.reported message) .unknown))

/-- What the library of a schema answers for one of its objects: the further fields of the object,
in order, and what is read of it under a name. -/
structure Answers where
  extras : List (String × Value)
  read : String → Reading

/-- An object of the last of its classes, with its items, if it is a row, and the attributes set on
it, in order. An object of a schema is only known by the answers of its library. -/
structure Instance where
  lineage : Lineage
  items : List Value
  attributes : List (String × Value)
  answers : Answers := ⟨[], fun _ => .ok none⟩

/-- What can serve as a model: an object, or a plain value. -/
inductive Model where
  | value (value : Value)
  | object (object : Instance)

namespace Instance

/-- What the object itself holds: the attributes set on it under names that its classes do not
manage. -/
def held (object : Instance) : List (String × Value) :=
  object.attributes.foldl
    (fun known entry =>
      match object.lineage.binding? entry.1 with
      | some binding =>
        if binding.isManaged then known else setEntry entry.1 entry.2 known
      | none => setEntry entry.1 entry.2 known)
    []

/-- The value set in a slot. -/
def slot? (object : Instance) (name : String) : Option Value :=
  object.attributes.reverse.lookup name

/-- Reads what is not computed: the object's own value before that of its classes. -/
def readHeld (object : Instance) (name : String) (binding : Option Binding) : Option Value :=
  match object.held.lookup name with
  | some value => some value
  | none =>
    match binding with
    | some (.value value) => some value
    | some .operation => some .operation
    | _ => none

/-- Reads a member. A getter may read another attribute; the first argument bounds how many
follow each other. -/
def readWithin : Nat → Instance → String → Reading
  | 0, _, _ => .ok none
  | depth + 1, object, name =>
    match object.lineage.binding? name with
    | some (.property getter) => getter.result (readWithin depth object)
    | some .writeOnly => .ok none
    | some .slot => .ok (object.slot? name)
    | some (.item index) => .ok object.items[index]?
    | binding => .ok (object.readHeld name binding)

/-- Getters that lead to each other in a circle read nothing. -/
def read (object : Instance) (name : String) : Reading :=
  if object.lineage.isSchema then object.answers.read name
  else object.readWithin ((object.lineage.flatMap (·.members)).length + 1) name

/-- What is set on the object alone. -/
def own (object : Instance) : List (String × Value) :=
  if object.lineage.isSchema then object.answers.extras else object.held

/-- The names of public values that are set on the object alone. -/
def ownNames (object : Instance) : List String := (object.own.map (·.1)).filter isPublic

/-- Declared members, then names of the object's own. -/
def names (object : Instance) : List String := addNames object.lineage.members object.ownNames

end Instance

/-- The members of plain values. Days, moments and durations know the first and the last of their
kind, and the time from one to the next. -/
def Value.members : Value → List (String × Value)
  | .date _ =>
    [("min", .date .first), ("max", .date .last), ("resolution", .duration (.ofSeconds 86400))]
  | .moment _ =>
    [("min", .moment .first), ("max", .moment .last), ("resolution", .duration ⟨1⟩)]
  | .duration _ =>
    [("resolution", .duration ⟨1⟩), ("min", .duration .least), ("max", .duration .greatest)]
  | _ => []

namespace Source

/-- A missing or null member counts as an empty text. -/
def memberValue : Option Value → Value
  | none => .text ""
  | some .null => .text ""
  | some value => value

/-- Reads the named members in order; of names that differ in case only the first one counts. -/
def addMembers (object : Instance) : Source → List String → Except Failure Source
  | source, [] => .ok source
  | source, name :: rest =>
    if source.contains name then addMembers object source rest
    else do
      let value ← object.read name
      addMembers object (source.put name (memberValue value)) rest

def ofObject (object : Instance) : Except Failure Source :=
  addMembers object .empty object.names

def ofModel : Model → Except Failure Source
  | .value .null => .error .missingModel
  | .value value =>
    .ok (value.members.foldl (fun source entry => source.put entry.1 entry.2) .empty)
  | .object object => ofObject object

end Source

/-- The members that a model declares. -/
def Model.members : Model → List String
  | .value self => self.members.map (·.1)
  | .object self => self.lineage.members

end Stencil
