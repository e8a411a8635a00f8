import Stencil.Number.Digits
import Stencil.Text.Quoted

/-! JSON documents and their written form: on one line, with a blank after each comma and colon,
and with all characters as they are but for those that have to be escaped. -/

namespace Stencil

inductive Json where
  | null
  | flag (value : Bool)
  | integer (value : Int)
  | text (value : String)
  | list (items : List Json)
  | record (fields : List (String × Json))

namespace Json

/-- A character as it stands between double quotes. -/
def escaped (c : Char) : List Char :=
  if c = '"' || c = '\\' then ['\\', c]
  else if c = '\n' then ['\\', 'n']
  else if c = '\r' then ['\\', 'r']
  else if c = '\t' then ['\\', 't']
  else if c = '\x08' then ['\\', 'b']
  else if c = '\x0C' then ['\\', 'f']
  else if c.toNat < 0x20 then '\\' :: 'u' :: Text.hexadecimal 4 c.toNat
  else [c]

def quoted (text : String) : String :=
  String.ofList ('"' :: text.toList.flatMap escaped ++ ['"'])

mutual

def written : Json → String
  | null => "null"
  | flag value => if value then "true" else "false"
  | integer value => String.ofList (Number.integerText value)
  | text value => quoted value
  | list items => "[" ++ ", ".intercalate (writtenItems items) ++ "]"
  | record fields => "\x7b" ++ ", ".intercalate (writtenFields fields) ++ "\x7d"

def writtenItems : List Json → List String
  | [] => []
  | item :: rest => written item :: writtenItems rest

def writtenFields : List (String × Json) → List String
  | [] => []
  | (name, value) :: rest => (quoted name ++ ": " ++ written value) :: writtenFields rest

end

def ofTexts (texts : List String) : Json := list (texts.map text)

end Json

end Stencil
