import Stencil.Entries
import Stencil.Source
import Stencil.Text.Blank
import Stencil.Text.Search
import Stencil.Text.Word

/-! Model objects, whose members serve as named values: classes with what their bodies define, in
order, and with the classes that they extend. -/

namespace Stencil

/-- What happens when a computed member is read. -/
inductive Getter where
  | constant (value : Value)
  | attribute (name : String)
  | absent
  | broken (message : String)
  | reported (message : String)

/-- What a declaration means to the decorator that makes records. -/
inductive FieldRole where
  | field
  /-- A value of the class and not of its objects. -/
  | classLevel
  /-- Given to the constructor, which does not keep it. -/
  | argument
  /-- Divides the fields and is none of them. -/
  | divider
deriving DecidableEq, Repr

/-- The name that the text of a type starts with, less the module in front of it. -/
def leadingName (typeText : List Char) : List Char :=
  let text := Text.dropBlanks typeText
  let first := text.takeWhile Text.isWord
  match Text.dropBlanks (text.dropWhile Text.isWord) with
  | '.' :: rest =>
    let second := (Text.dropBlanks rest).takeWhile Text.isWord
    if first.isEmpty || second.isEmpty then first else second
  | _ => first

/-- The role of a declaration whose type is a mere text: only the name that the text starts with
counts. -/
def FieldRole.ofText (typeText : String) : FieldRole :=
  if leadingName typeText.toList == "ClassVar".toList then .classLevel else .field

/-- A definition in the body of a class. -/
inductive Member where
  /-- A declaration with the text of its type, a value if one is assigned, and what the type means
  to the decorator of records. -/
  | field (name typeText : String) (default : Option Value)
      (role : FieldRole := .ofText typeText)
  | attribute (name : String) (value : Value)
  /-- A method of any sort, or a class. -/
  | operation (name : String)
  | property (name : String) (getter : Getter)
  /-- A property that cannot be read. -/
  | writeOnly (name : String)
  | slots (names : List String)

inductive ClassKind where
  | plain
  /-- Its fields are its declarations and those of the records it extends. -/
  | record
  /-- Made by a library of its own, which tells its fields and its computed fields. -/
  | schema (fields computed : List String)
  /-- Its objects are tuples with a name for each item. -/
  | row (fields : List String)
deriving DecidableEq, Repr

/-- A class. The classes that it extends, near and far, stand in the order opposite to the one in
which they are searched for an attribute, the most basic one first. -/
structure ModelClass where
  kind : ClassKind
  members : List Member
  bases : List ModelClass

/-- A class of an object behind all the classes that it extends, the most basic one first. -/
abbrev Lineage := List ModelClass

/-- The classes of the objects of a class. -/
def ModelClass.lineage (self : ModelClass) : Lineage := self.bases ++ [self]

/-- Classes of which each extends those in front of it. -/
def Lineage.chain (bodies : List (ClassKind × List Member)) : Lineage :=
  bodies.foldl (fun line body => line ++ [⟨body.1, body.2, line⟩]) []

/-- Adds names that are not there yet. -/
def addNames (known : List String) (names : List String) : List String :=
  names.foldl (fun known name => if known.contains name then known else known ++ [name]) known

def isPublic (name : String) : Bool := name.toList.head? != some '_'

/-- A declaration so annotated belongs to the class and not to its objects. -/
def isClassLevel (typeText : String) : Bool :=
  Text.occurs "ClassVar".toList typeText.toList

end Stencil
