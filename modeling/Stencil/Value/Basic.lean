import Stencil.Calendar
import Stencil.Number.Exact

/-! The values that holes take: data of the caller, and what functions make of them. -/

namespace Stencil

open Number

inductive Value where
  | null
  | flag (value : Bool)
  | integer (value : Int)
  | float (value : Binary64)
  | decimal (value : Decimal)
  | date (value : Date)
  | moment (value : Moment)
  | duration (value : Duration)
  | text (value : String)
  | list (items : List Value)
  | tuple (items : List Value)
  | mapping (entries : List (Value × Value))
  /-- A member of a model that is called instead of read. -/
  | operation

namespace Value

def isText : Value → Bool
  | text _ => true
  | _ => false

/-- The items of a list or tuple. -/
def items? : Value → Option (List Value)
  | list items => some items
  | tuple items => some items
  | _ => none

/-- All items as texts, unless one of them is something else. -/
def textsOf : List Value → Option (List String)
  | [] => some []
  | text value :: rest => (textsOf rest).map (value :: ·)
  | _ :: _ => none

/-- The texts of a list or tuple made of texts only. -/
def texts? (value : Value) : Option (List String) := value.items?.bind textsOf

/-- A list or tuple made of texts only; an empty one counts. -/
def isSequence (value : Value) : Bool := value.texts?.isSome

def ofTexts (texts : List String) : Value := list (texts.map text)

theorem textsOf_map_text (texts : List String) : textsOf (texts.map text) = some texts := by
  induction texts with
  | nil => rfl
  | cons first rest ih => simp [textsOf, ih]

theorem texts?_ofTexts (texts : List String) : (ofTexts texts).texts? = some texts :=
  textsOf_map_text texts

end Value

end Stencil
