import Stencil.Caret
import Stencil.Report
import Stencil.Text.Blank
import Stencil.Text.Utf8

/-! Why a command does not do what it is asked for. -/

namespace Stencil.CommandLine

/-- What ends a run without a message of its own. -/
inductive Breakage where
  | directory
  /-- A value is of a kind that cannot be used here. -/
  | kind
  | separator
  /-- A number is too large to be worked with. -/
  | overflow
  /-- Anything else, by its name. -/
  | other (name : String)
deriving DecidableEq, Repr

inductive Refusal where
  /-- The template does not parse or render, or the data clash. -/
  | failure (failure : Failure)
  | templateMissing (path : String)
  | dataMissing (path : String)
  /-- A data file holds no document, for a reason. -/
  | dataMalformed (path reason : String)
  /-- What a data file holds cannot be used. -/
  | dataUnusable (message : String)
  /-- As before, but the run breaks. -/
  | dataBreaks (cause : Breakage) (message : String)
  | dataNoMapping (path : String)
  | pairWithoutValue (pair : String)
  | pairWithoutName (pair : String)
  | encoding (error : Text.EncodingError)
  /-- A directory stands where a file should. -/
  | directory (path : String)
  /-- Standard output does not take a text. -/
  | unwritten (message : String)

/-- The exit status for a template error: the template itself is at fault, or what it asks for. -/
def templateStatus (stage : Stage) : Nat :=
  match stage with
  | .parse => 2
  | .evaluate => 3

namespace Refusal

def message : Refusal → String
  | failure error => error.message
  | templateMissing path => "Template file not found: " ++ path
  | dataMissing path => "Data file not found: " ++ path
  | dataMalformed path reason => "Failed to parse data file " ++ path ++ ": " ++ reason
  | dataUnusable message => message
  | dataBreaks _ message => message
  | dataNoMapping path => "Data file " ++ path ++ " must contain a mapping at the top level"
  | pairWithoutValue pair => "Invalid value format '" ++ pair ++ "'. Expected 'NAME=VALUE'"
  | pairWithoutName pair => "Invalid value format '" ++ pair ++ "'. Name must not be empty"
  | encoding error => error.message
  | directory path => "[Errno 21] Is a directory: " ++ Text.quoted path
  | unwritten message => message

/-- How a refusal breaks the run, if it does. -/
def breakage? : Refusal → Option Breakage
  | failure (.missingText _) => some .kind
  | failure .missingSeparator => some .separator
  | dataBreaks cause _ => some cause
  | directory _ => some .directory
  | _ => none

/-- A message with the place in the template below it where there is one; otherwise without the
blanks at its end. -/
def lines (template : String) : Refusal → List String
  | failure (.template error) => error.describe :: (caretLine template error.position).toList
  | refusal => [Text.trimEnd refusal.message]

/-- Data that cannot be used are as bad as a template that does not parse. -/
def status : Refusal → Nat
  | failure (.template error) => templateStatus error.report.stage
  | _ => 2

end Refusal

end Stencil.CommandLine
