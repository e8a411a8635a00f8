import Stencil.Model.Basic

/-! The members that the classes of an object declare, in the order in which they are offered to
templates. -/

namespace Stencil

/-- A name bound in a class. -/
inductive Binding where
  | value (value : Value)
  | operation
  | property (getter : Getter)
  | writeOnly
  | slot
  | item (index : Nat)

/-- Data is bound as it is; everything else is called, or read from an object. -/
def Binding.isData : Binding → Bool
  | value _ => true
  | _ => false

/-- A binding that is read whatever the object holds under the name. -/
def Binding.isManaged : Binding → Bool
  | property _ | writeOnly | slot | item _ => true
  | value _ | operation => false

/-- What a definition binds in its class. -/
def Member.binding? : Member → Option (String × Binding)
  | .field name _ default _ => default.map fun value => (name, .value value)
  | .attribute name value => some (name, .value value)
  | .operation name => some (name, .operation)
  | .property name getter => some (name, .property getter)
  | .writeOnly name => some (name, .writeOnly)
  | .slots _ => none

/-- What a declaration says of its name. -/
structure Annotation where
  typeText : String
  role : FieldRole

/-- The declarations among some definitions. A name declared twice keeps its place. -/
def annotations (members : List Member) : List (String × Annotation) :=
  members.foldl
    (fun known member =>
      match member with
      | .field name typeText _ role => setEntry name ⟨typeText, role⟩ known
      | _ => known)
    []

namespace ModelClass

def isRecord (self : ModelClass) : Bool := self.kind == .record

/-- The fields and the computed fields that a library tells of its class. -/
def schema? (self : ModelClass) : Option (List String × List String) :=
  match self.kind with
  | .schema fields computed => some (fields, computed)
  | _ => none

def isSchema (self : ModelClass) : Bool := self.schema?.isSome

def rowFields? (self : ModelClass) : Option (List String) :=
  match self.kind with
  | .row fields => some fields
  | _ => none

/-- Declarations with the texts of their types. -/
def declared (self : ModelClass) : List (String × String) :=
  (annotations self.members).map fun entry => (entry.1, entry.2.typeText)

/-- The names of the slots; of several lists the last counts. -/
def slotNames (self : ModelClass) : List String :=
  self.members.foldl
    (fun known member =>
      match member with
      | .slots names => names
      | _ => known)
    []

/-- The bindings of a class: those of its body in order, a later one in the place of an earlier
one of its name, then its slots and the items of a row. -/
def bindings (self : ModelClass) : List (String × Binding) :=
  let body :=
    self.members.foldl
      (fun known member =>
        match member.binding? with
        | some (name, binding) => setEntry name binding known
        | none => known)
      []
  let slots := self.slotNames.map fun name => (name, Binding.slot)
  let fields := (self.rowFields?.getD []).zipIdx.map fun (name, index) => (name, Binding.item index)
  body ++ slots ++ fields

def binding? (self : ModelClass) (name : String) : Option Binding :=
  (self.bindings.find? fun entry => entry.1 == name).map (·.2)

end ModelClass

/-! ### Records -/

/-- The names that the decorator of records keeps for a class, with what they were declared to be. -/
abbrev RecordTable := List (String × FieldRole)

/-- The declarations that a record adds to those of the classes it extends. -/
def recordEntries (members : List Member) : RecordTable :=
  ((annotations members).map fun entry => (entry.1, entry.2.role)).filter
    fun entry => entry.2 != .divider

mutual

/-- The table that is seen on a class. A record has one of its own, into which the decorator put
what is seen on each class that the record extends, and then the declarations of the record. -/
def ModelClass.recordTable? : ModelClass → Option RecordTable
  | ⟨.record, members, bases⟩ => some (setAll (seenTables bases ++ recordEntries members))
  | ⟨_, _, bases⟩ => Lineage.recordTable? bases

/-- The table of the last record among some classes, which is the first one searched. -/
def Lineage.recordTable? : Lineage → Option RecordTable
  | [] => none
  | c :: rest =>
    match Lineage.recordTable? rest with
    | some table => some table
    | none => if c.isRecord then c.recordTable? else none

/-- The tables that are seen on classes, one behind the other. -/
def seenTables : List ModelClass → RecordTable
  | [] => []
  | c :: rest => c.recordTable?.getD [] ++ seenTables rest

end

namespace Lineage

/-- The binding of the most special class that has one. -/
def binding? (lineage : Lineage) (name : String) : Option Binding :=
  lineage.reverse.findSome? (·.binding? name)

/-- Names that some class declares on the level of the class. -/
def classLevelNames (lineage : Lineage) : List String :=
  lineage.flatMap fun c => (c.declared.filter fun entry => isClassLevel entry.2).map (·.1)

def isSchema (lineage : Lineage) : Bool := lineage.any (·.isSchema)

def isRecord (lineage : Lineage) : Bool := lineage.any (·.isRecord)

/-- What the library tells of the most special of its classes. -/
def schema? (lineage : Lineage) : Option (List String × List String) :=
  lineage.reverse.findSome? (·.schema?)

def schemaFields (lineage : Lineage) : List String := (lineage.schema?.map (·.1)).getD []

def computedFields (lineage : Lineage) : List String := (lineage.schema?.map (·.2)).getD []

/-- The fields of the most special record. -/
def recordFields (lineage : Lineage) : List String :=
  ((lineage.recordTable?.getD []).filter fun entry => entry.2 == .field).map (·.1)

def rowFields? (lineage : Lineage) : Option (List String) :=
  lineage.reverse.findSome? (·.rowFields?)

/-- The declared fields, by the kind of the classes. -/
def fieldNames (lineage : Lineage) : List String :=
  if lineage.isSchema then lineage.schemaFields ++ lineage.computedFields
  else if lineage.isRecord then lineage.recordFields
  else
    match lineage.rowFields? with
    | some fields => fields
    | none =>
      (lineage.flatMap fun c => c.declared.map (·.1)).filter
        fun name => !lineage.classLevelNames.contains name

/-- Data bound in classes that are no schemas, unless declared on the level of the class. -/
def dataNames (lineage : Lineage) : List String :=
  if lineage.isSchema then []
  else
    (lineage.flatMap fun c => (c.bindings.filter (·.2.isData)).map (·.1)).filter
      fun name => !lineage.classLevelNames.contains name

def propertyNames (lineage : Lineage) : List String :=
  lineage.flatMap fun c =>
    c.bindings.filterMap fun entry =>
      match entry.2 with
      | .property _ => some entry.1
      | _ => none

/-- The public members: fields, slots, class data and properties, each from the most basic
class on. -/
def members (lineage : Lineage) : List String :=
  let all :=
    lineage.fieldNames ++ lineage.flatMap (·.slotNames) ++ lineage.dataNames ++
      lineage.propertyNames
  addNames [] (all.filter isPublic)

end Lineage

end Stencil
