/-! Decimal digits: numbers as digit text, and digit text as numbers. -/

namespace Stencil.Number

def isDigit (c : Char) : Bool := '0' ≤ c && c ≤ '9'

def digitValue (c : Char) : Nat := c.toNat - '0'.toNat

/-- The number written by a run of digits, most significant first. -/
def ofDigits (digits : List Char) : Nat :=
  digits.foldl (fun value c => 10 * value + digitValue c) 0

def isHexadecimal (c : Char) : Bool :=
  isDigit c || ('a' ≤ c && c ≤ 'f') || ('A' ≤ c && c ≤ 'F')

/-- The value of a hexadecimal digit. -/
def hexadecimalValue (c : Char) : Nat :=
  if isDigit c then digitValue c else c.toLower.toNat - 'a'.toNat + 10

/-- The number written by digits to a base, most significant first. -/
def ofDigitsTo (base : Nat) (digits : List Char) : Nat :=
  digits.foldl (fun value c => base * value + hexadecimalValue c) 0

/-- The digits of a number, most significant first; zero has one digit. -/
def digits (value : Nat) : List Char := Nat.toDigits 10 value

/-- The digits of a number, filled with zeros up to a width. -/
def padded (width value : Nat) : List Char :=
  List.replicate (width - (digits value).length) '0' ++ digits value

def integerText : Int → List Char
  | .ofNat value => digits value
  | .negSucc value => '-' :: digits (value + 1)

/-- An optional sign at the start of a text: whether it is a minus, and what follows it. -/
def splitSign : List Char → Bool × List Char
  | '-' :: rest => (true, rest)
  | '+' :: rest => (false, rest)
  | text => (false, text)

def signed (negative : Bool) (value : Nat) : Int := if negative then -value else value

/-- A number in decimal notation, in parts: the digits before and after the point, and the
power of ten. -/
structure Notation where
  whole : List Char
  fraction : List Char
  exponent : Int

/-- The coefficient of the notation, read without its point. -/
def Notation.coefficient (notated : Notation) : Nat := ofDigits (notated.whole ++ notated.fraction)

/-- The power of ten that belongs to the coefficient. -/
def Notation.scale (notated : Notation) : Int := notated.exponent - notated.fraction.length

/-- The power of ten after the mark `e` or `E`; nothing stands for the power zero. -/
def readExponent : List Char → Option Int
  | [] => some 0
  | mark :: rest =>
    if mark = 'e' || mark = 'E' then
      let (negative, digits) := splitSign rest
      if !digits.isEmpty && digits.all isDigit then some (signed negative (ofDigits digits))
      else none
    else
      none

/-- Reads unsigned decimal notation such as `12`, `1.5`, `.5`, `5.` or `1e-7`. -/
def readNotation (text : List Char) : Option Notation :=
  let whole := text.takeWhile isDigit
  let rest := text.dropWhile isDigit
  let (fraction, rest) :=
    match rest with
    | '.' :: more => (more.takeWhile isDigit, more.dropWhile isDigit)
    | _ => ([], rest)
  if whole.isEmpty && fraction.isEmpty then none
  else (readExponent rest).map fun exponent => ⟨whole, fraction, exponent⟩

/-- Removes underscores that stand between two digits; a misplaced one remains. -/
def dropGroupMarks : List Char → List Char
  | a :: '_' :: b :: rest =>
    if isDigit a && isDigit b then a :: dropGroupMarks (b :: rest)
    else a :: '_' :: dropGroupMarks (b :: rest)
  | c :: rest => c :: dropGroupMarks rest
  | [] => []

end Stencil.Number
