import Stencil.Calendar

/-! Why a text holds no value. -/

namespace Stencil.Yaml

/-- What cannot stand within a key, since its content could change. -/
inductive Changeable where
  | list
  | mapping
deriving DecidableEq, Repr

inductive Fault where
  /-- The form or the meaning of the document is broken. -/
  | malformed
  /-- The text that could be read ends within the document. -/
  | cut
  /-- A whole number is too long to be read. -/
  | numberTooLong (digits : Nat)
  /-- A number that is too long to be written would have to be named. -/
  | unwritable
  /-- A whole number to a base has no digits. -/
  | noDigits (base : Nat)
  /-- What has the form of a number with a point has no digits. -/
  | noNumber (text : String)
  | calendar (error : CalendarError)
  /-- An escape names no character. -/
  | noCharacter (code : Nat)
  | changeableKey (part : Changeable)
deriving DecidableEq, Repr

end Stencil.Yaml
