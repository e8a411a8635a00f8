import Stencil.Number.Binary64
import Stencil.Number.Decimal

/-! Comparison of whole, binary and decimal numbers by their exact values. -/

namespace Stencil.Number

/-- An exact number in one form: the coefficient of a nonzero number does not end in zero, and
zero has exponent zero and no sign. -/
inductive Exact where
  | infinity (negative : Bool)
  | finite (negative : Bool) (coefficient : Nat) (exponent : Int)
deriving DecidableEq

/-- Moves final zeros of a coefficient into the exponent. The first argument bounds their
number. -/
def stripZeros : Nat → Nat → Int → Nat × Int
  | 0, coefficient, exponent => (coefficient, exponent)
  | bound + 1, coefficient, exponent =>
    if coefficient % 10 = 0 then stripZeros bound (coefficient / 10) (exponent + 1)
    else (coefficient, exponent)

def Exact.of (negative : Bool) (coefficient : Nat) (exponent : Int) : Exact :=
  if coefficient = 0 then .finite false 0 0
  else
    let (coefficient, exponent) :=
      stripZeros (digits coefficient).length coefficient exponent
    .finite negative coefficient exponent

def Exact.ofInt (value : Int) : Exact := .of (value < 0) value.natAbs 0

/-- A not-a-number has no exact value. -/
def Binary64.exact? : Binary64 → Option Exact
  | .nan => none
  | .infinity negative => some (.infinity negative)
  | .finite negative significand (.ofNat shift) =>
    some (.of negative (significand * Nat.pow 2 shift) 0)
  | .finite negative significand (.negSucc shift) =>
    some (.of negative (significand * Nat.pow 5 (shift + 1)) (-(shift + 1)))

def Decimal.exact? : Decimal → Option Exact
  | .nan .. => none
  | .infinity negative => some (.infinity negative)
  | .finite negative coefficient exponent => some (.of negative coefficient exponent)

end Stencil.Number
