import Stencil.Model.Read

/-! One library of schemas, which goes by the definitions in the bodies of its classes. The fields of
a schema are its public declarations that are not on the level of the class, together with those of
the schemas it extends, and an object of it holds the fields that are set or have a default. -/

namespace Stencil.Schema

/-- The body of a schema: its definitions, and those of its properties that count as fields. -/
structure Body where
  members : List Member
  computed : List String

/-- A public declaration for the objects of the class is a field. -/
def makesField (name typeText : String) : Bool := isPublic name && !isClassLevel typeText

/-- The declarations of classes; a name declared again keeps its place and takes the new type. -/
def declarations (line : Lineage) : List (String × String) :=
  setAll (line.flatMap (·.declared))

/-- Values are taken away from the declarations for objects, whatever their names. -/
def withoutDefault : Member → Member
  | .field name typeText default role =>
    .field name typeText (if isClassLevel typeText then default else none) role
  | member => member

/-- Adds the schema of a body to those it extends. -/
def extend (line : Lineage) (body : Body) : Lineage :=
  let members := body.members.map withoutDefault
  let declared := declarations (line ++ [⟨.plain, members, line⟩])
  let fields := (declared.filter fun entry => makesField entry.1 entry.2).map (·.1)
  line ++ [⟨.schema fields (line.computedFields ++ body.computed), members, line⟩]

/-- The schemas of bodies, each of which extends those in front of it. -/
def line (bodies : List Body) : Lineage := bodies.foldl extend []

/-- The defaults of declarations for objects, the most special ones first. -/
def defaults (bodies : List Body) : List (String × Value) :=
  (bodies.flatMap fun body =>
    body.members.filterMap fun
      | .field name typeText (some default) _ =>
        if isClassLevel typeText then none else some (name, default)
      | _ => none).reverse

section

variable (bodies : List Body) (isOpen : Bool) (attributes : List (String × Value))

/-- The values of the fields that are set or have a default. -/
def held : List (String × Value) :=
  (line bodies).schemaFields.filterMap fun name =>
    ((attributes.lookup name).or ((defaults bodies).lookup name)).map (name, ·)

/-- What is set besides the fields, if the schema is open to it. -/
def extras : List (String × Value) :=
  if isOpen then
    setAll (attributes.filter fun entry => !(line bodies).schemaFields.contains entry.1)
  else []

/-- Reads what a class binds, and otherwise a field, a value of the class or a further field. -/
def readWithin : Nat → String → Reading
  | 0, _ => .ok none
  | depth + 1, name =>
    match (line bodies).binding? name with
    | some (.property getter) => getter.result (readWithin depth)
    | some .writeOnly => .ok none
    | binding =>
      let own := (held bodies attributes).lookup name
      match binding with
      | some (.value value) => .ok (own.or (some value))
      | some .operation => .ok (own.or (some .operation))
      | _ => .ok (own.or ((extras bodies isOpen attributes).lookup name))

/-- An object of the last schema. -/
def object : Instance where
  lineage := line bodies
  items := []
  attributes := attributes
  answers :=
    ⟨extras bodies isOpen attributes,
      readWithin bodies isOpen attributes ((bodies.flatMap (·.members)).length + 1)⟩

end

end Stencil.Schema
