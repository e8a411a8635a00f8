import Stencil.Number.Digits
import Stencil.Text.Quoted

/-! Text as bytes, one to four for a character. Reading names the first bytes that are no text
and says why; it accepts only the shortest form of a character. -/

namespace Stencil.Text

/-- Why bytes are no text. -/
inductive EncodingFault where
  | start
  | continuation
  | incomplete
deriving DecidableEq, Repr

/-- The bytes that are no text: how many, from which place on, and the first of them. -/
structure EncodingError where
  fault : EncodingFault
  position : Nat
  count : Nat
  byte : Nat
deriving DecidableEq, Repr

/-- A character of which some bytes, but not all, are read. The bounds are those of its next
byte. -/
structure OpenCharacter where
  byte : Nat
  count : Nat
  missing : Nat
  low : Nat
  high : Nat
  code : Nat

/-- What a first byte opens. The bounds of the second byte keep out longer forms than needed,
halves of surrogate pairs and whatever lies above the last character. -/
def openCharacter (byte : Nat) : Option OpenCharacter :=
  if byte < 0xC2 then none
  else if byte < 0xE0 then some ⟨byte, 1, 1, 0x80, 0xBF, byte - 0xC0⟩
  else if byte < 0xF0 then
    some ⟨byte, 1, 2, if byte = 0xE0 then 0xA0 else 0x80, if byte = 0xED then 0x9F else 0xBF,
      byte - 0xE0⟩
  else if byte < 0xF5 then
    some ⟨byte, 1, 3, if byte = 0xF0 then 0x90 else 0x80, if byte = 0xF4 then 0x8F else 0xBF,
      byte - 0xF0⟩
  else none

def OpenCharacter.next (self : OpenCharacter) (byte : Nat) : OpenCharacter :=
  ⟨self.byte, self.count + 1, self.missing - 1, 0x80, 0xBF, self.code * 0x40 + (byte - 0x80)⟩

def OpenCharacter.error (self : OpenCharacter) (fault : EncodingFault) (position : Nat) :
    EncodingError :=
  ⟨fault, position - self.count, self.count, self.byte⟩

/-- The characters from a place on, possibly within a character, and what is wrong with the first
bytes that are no text. -/
def readUtf8From (position : Nat) :
    Option OpenCharacter → List UInt8 → List Char × Option EncodingError
  | none, [] => ([], none)
  | some part, [] => ([], some (part.error .incomplete position))
  | none, byte :: rest =>
    if byte.toNat < 0x80 then
      let (text, error) := readUtf8From (position + 1) none rest
      (Char.ofNat byte.toNat :: text, error)
    else
      match openCharacter byte.toNat with
      | none => ([], some ⟨.start, position, 1, byte.toNat⟩)
      | some part => readUtf8From (position + 1) (some part) rest
  | some part, byte :: rest =>
    if part.low ≤ byte.toNat && byte.toNat ≤ part.high then
      let part := part.next byte.toNat
      if part.missing = 0 then
        let (text, error) := readUtf8From (position + 1) none rest
        (Char.ofNat part.code :: text, error)
      else readUtf8From (position + 1) (some part) rest
    else ([], some (part.error .continuation position))

/-- The characters up to the first bytes that are no text, and what is wrong with those. -/
def readUtf8 (bytes : List UInt8) : List Char × Option EncodingError := readUtf8From 0 none bytes

def ofUtf8 (bytes : List UInt8) : Except EncodingError (List Char) :=
  match readUtf8 bytes with
  | (text, none) => .ok text
  | (_, some error) => .error error

def EncodingFault.message : EncodingFault → String
  | start => "invalid start byte"
  | continuation => "invalid continuation byte"
  | incomplete => "unexpected end of data"

def EncodingError.place (error : EncodingError) : List Char :=
  if error.count = 1 then
    "byte 0x".toList ++ hexadecimal 2 error.byte ++ " in position ".toList ++
      Number.digits error.position
  else
    "bytes in position ".toList ++ Number.digits error.position ++
      '-' :: Number.digits (error.position + error.count - 1)

def EncodingError.message (error : EncodingError) : String :=
  "'utf-8' codec can't decode " ++ String.ofList error.place ++ ": " ++ error.fault.message

end Stencil.Text
