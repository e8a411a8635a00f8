import Stencil.CommandLine.Refusal
import Stencil.Entries

/-! The named values of a run: those of a data file, then those of single pairs. -/

namespace Stencil.CommandLine

open Text

/-- Values under their names, in order. -/
abbrev NamedValues := List (String × Value)

/-- The values of a mapping under the display forms of their keys. -/
def shownKeys : Mapping → Except Failure NamedValues
  | [] => .ok []
  | (key, value) :: rest => do
    let name ← key.shown
    let others ← shownKeys rest
    return (name, value) :: others

/-- The display forms of the keys are the names. Of two keys with one display form the first
gives the place and the last the value. -/
def nameKeys (mapping : Mapping) : Except Refusal NamedValues :=
  ((shownKeys mapping).map setAll).mapError .failure

/-- The values as a mapping with text keys. -/
def NamedValues.mapping (values : NamedValues) : Mapping :=
  values.map fun entry => (.text entry.1, entry.2)

/-- The text before the first equals sign, and the text after it. -/
def splitPair (pair : String) : Option (String × String) :=
  match pair.toList.dropWhile (· != '=') with
  | [] => none
  | _ :: value => some (String.ofList (pair.toList.takeWhile (· != '=')), String.ofList value)

/-- Reads a pair `NAME=VALUE`. The name loses the blanks around it, the value none. -/
def readPair (pair : String) : Except Refusal (String × String) :=
  match splitPair pair with
  | none => .error (.pairWithoutValue pair)
  | some (name, value) =>
    if trim name = "" then .error (.pairWithoutName pair) else .ok (trim name, value)

/-- Sets a text under a name, in the place of all values under that name in any case. -/
def assign (name value : String) (values : NamedValues) : NamedValues :=
  values.filter (fun entry => fold entry.1 != fold name) ++ [(name, .text value)]

/-- Sets the values of pairs, one after the other. -/
def applySets : NamedValues → List String → Except Refusal NamedValues
  | values, [] => .ok values
  | values, pair :: rest => do
    let (name, value) ← readPair pair
    applySets (assign name value values) rest

/-- The text of a file, with all line ends as line feeds. -/
def fileText (bytes : List UInt8) : Except Text.EncodingError (List Char) :=
  (ofUtf8 bytes).map unifyLineEnds

/-- What a loader makes of the bytes of a data file. -/
inductive Loading where
  | value (value : Value)
  /-- The bytes hold no document, for a reason. -/
  | malformed (reason : String)
  /-- What they hold cannot be used. -/
  | unusable (message : String)
  /-- As before, but it breaks the run. -/
  | breaks (cause : Breakage) (message : String)

/-- The mapping that was loaded from a data file. A document without content holds none of the
values. -/
def dataMapping (path : String) : Loading → Except Refusal Mapping
  | .value (.mapping entries) => .ok entries
  | .value .null => .ok []
  | .value _ => .error (.dataNoMapping path)
  | .malformed reason => .error (.dataMalformed path reason)
  | .unusable message => .error (.dataUnusable message)
  | .breaks cause message => .error (.dataBreaks cause message)

end Stencil.CommandLine
