import Stencil.Number.Digits

/-! Decimal numbers that keep their digits: a coefficient with a power of ten, so that `1.50`
and `1.5` are equal but written apart. -/

namespace Stencil.Number

/-- A finite number is `coefficient * 10 ^ exponent`; a not-a-number may carry digits. -/
inductive Decimal where
  | finite (negative : Bool) (coefficient : Nat) (exponent : Int)
  | infinity (negative : Bool)
  | nan (negative signaling : Bool) (payload : List Char)
deriving DecidableEq, Repr

namespace Decimal

/-- The digits after the name of a not-a-number, without zeros in front. -/
def readPayload (digits : List Char) : Option (List Char) :=
  if digits.all isDigit then some (digits.dropWhile (· == '0')) else none

/-- Reads decimal notation, an infinity or a not-a-number; underscores are passed over. -/
def read (text : List Char) : Option Decimal :=
  let (negative, body) := splitSign (text.filter (· != '_'))
  let name := body.map Char.toLower
  if name = "inf".toList || name = "infinity".toList then some (.infinity negative)
  else if "nan".toList.isPrefixOf name then
    (readPayload (body.drop 3)).map (.nan negative false)
  else if "snan".toList.isPrefixOf name then
    (readPayload (body.drop 4)).map (.nan negative true)
  else
    (readNotation body).map fun notated => .finite negative notated.coefficient notated.scale

def sign (negative : Bool) : List Char := if negative then ['-'] else []

/-- Positional notation when the exponent is at most zero and at most five zeros follow the
point before the digits; otherwise one digit, the rest after the point and a power of ten. -/
def magnitudeText (coefficient : Nat) (exponent : Int) : List Char :=
  let all := digits coefficient
  let left : Int := exponent + Int.ofNat all.length
  let point : Int := if exponent ≤ 0 && -6 < left then left else 1
  let body :=
    if point ≤ 0 then '0' :: '.' :: List.replicate point.natAbs '0' ++ all
    else if Int.ofNat all.length ≤ point then
      all ++ List.replicate (point.toNat - all.length) '0'
    else all.take point.toNat ++ '.' :: all.drop point.toNat
  let power := left - point
  let tail :=
    if power = 0 then []
    else ['E', if power < 0 then '-' else '+'] ++ digits power.natAbs
  body ++ tail

def text : Decimal → String
  | .finite negative coefficient exponent =>
    String.ofList (sign negative ++ magnitudeText coefficient exponent)
  | .infinity negative => String.ofList (sign negative ++ "Infinity".toList)
  | .nan negative signaling payload =>
    String.ofList
      (sign negative ++ (if signaling then "sNaN".toList else "NaN".toList) ++ payload)

end Decimal

end Stencil.Number
