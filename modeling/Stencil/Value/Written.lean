import Stencil.Text.Quoted
import Stencil.Value.Basic

/-! Written forms of values. `Value.display` is the form of a value on its own. Inside a list,
tuple or mapping stands its literal form, in which text is quoted and numbers and dates of the
richer kinds name their kind. -/

namespace Stencil

open Number Text

def flagText (value : Bool) : String := if value then "True" else "False"

def naturalText (value : Nat) : String := String.ofList (digits value)

def listed (values : List String) : String := ", ".intercalate values

def Date.literal (date : Date) : String :=
  "datetime.date(" ++ listed [naturalText date.year, naturalText date.month, naturalText date.day]
    ++ ")"

/-- Universal time without a name has a form of its own. -/
def Zone.literal (zone : Zone) : String :=
  match zone.name with
  | some name =>
    "datetime.timezone(" ++ listed [zone.offset.literal, quoted name] ++ ")"
  | none =>
    if zone.offset.micros = 0 then "datetime.timezone.utc"
    else "datetime.timezone(" ++ zone.offset.literal ++ ")"

/-- Seconds are left out when they and the microseconds are zero. -/
def Moment.literal (moment : Moment) : String :=
  let date := moment.date
  let fields := [date.year, date.month, date.day, moment.hour, moment.minute]
  let fine :=
    if moment.microsecond = 0 then if moment.second = 0 then [] else [moment.second]
    else [moment.second, moment.microsecond]
  let zone :=
    match moment.zone with
    | none => []
    | some zone => ["tzinfo=" ++ zone.literal]
  "datetime.datetime(" ++ listed ((fields ++ fine).map naturalText ++ zone) ++ ")"

/-- A tuple of one item keeps a comma. -/
def tupleLiteral : List String → String
  | [item] => "(" ++ item ++ ",)"
  | items => "(" ++ listed items ++ ")"

namespace Value

mutual

def literal : Value → String
  | null => "None"
  | flag value => flagText value
  | integer value => String.ofList (integerText value)
  | float value => value.text
  | decimal value => "Decimal('" ++ value.text ++ "')"
  | date value => value.literal
  | moment value => value.literal
  | duration value => value.literal
  | text value => quoted value
  | list items => "[" ++ listed (literals items) ++ "]"
  | tuple items => tupleLiteral (literals items)
  | mapping entries => "\x7b" ++ listed (entryLiterals entries) ++ "\x7d"
  | operation => "<operation>"

def literals : List Value → List String
  | [] => []
  | item :: rest => literal item :: literals rest

def entryLiterals : List (Value × Value) → List String
  | [] => []
  | (key, value) :: rest => (literal key ++ ": " ++ literal value) :: entryLiterals rest

end

def display : Value → String
  | decimal value => value.text
  | date value => value.text
  | moment value => value.text
  | duration value => value.text
  | text value => value
  | value => value.literal

/-! ### Long numbers -/

/-- Whole numbers with more decimal digits are neither read nor written. -/
def longestInteger : Nat := 4300

mutual

/-- No whole number in the value is too long to be written. -/
def isWritable : Value → Bool
  | integer value => value.natAbs < 10 ^ longestInteger
  | list items => areWritable items
  | tuple items => areWritable items
  | mapping entries => areWritableEntries entries
  | _ => true

def areWritable : List Value → Bool
  | [] => true
  | item :: rest => isWritable item && areWritable rest

def areWritableEntries : List (Value × Value) → Bool
  | [] => true
  | (key, value) :: rest => isWritable key && isWritable value && areWritableEntries rest

end

end Value

end Stencil
