import Stencil.Number.Digits

/-! Binary floating point numbers of double precision, held exactly: a number is a significand
times a power of two. Reading rounds to the nearest number, a tie to the even significand;
writing takes the fewest digits that read back, and of these the nearest. -/

namespace Stencil.Number

/-- A finite number is `significand * 2 ^ exponent`. The significand is below `2 ^ 53`, and from
`2 ^ 52` on unless the exponent is the least, -1074. -/
inductive Binary64 where
  | nan
  | infinity (negative : Bool)
  | finite (negative : Bool) (significand : Nat) (exponent : Int)
deriving DecidableEq, Repr

namespace Binary64

def leastExponent : Int := -1074

def greatestExponent : Int := 971

def zero (negative : Bool) : Binary64 := .finite negative 0 leastExponent

/-- The nearest whole number to a quotient, a tie going to the even one. -/
def roundQuotient (numerator denominator : Nat) : Nat :=
  let quotient := numerator / denominator
  let twice := 2 * (numerator % denominator)
  if denominator < twice || (twice == denominator && quotient % 2 == 1) then quotient + 1
  else quotient

/-- The quotient of two numbers divided by a power of two, rounded. -/
def roundAt (numerator denominator : Nat) (exponent : Int) : Nat :=
  match exponent with
  | .ofNat shift => roundQuotient numerator (denominator * Nat.pow 2 shift)
  | .negSucc shift => roundQuotient (numerator * Nat.pow 2 (shift + 1)) denominator

/-- The greatest `e` with `2 ^ e ≤ numerator / denominator`, for a positive quotient. -/
def binaryOrder (numerator denominator : Nat) : Int :=
  let guess : Int := Int.ofNat numerator.log2 - Int.ofNat denominator.log2
  let reaches : Bool :=
    match guess with
    | .ofNat shift => denominator * Nat.pow 2 shift ≤ numerator
    | .negSucc shift => denominator ≤ numerator * Nat.pow 2 (shift + 1)
  if reaches then guess else guess - 1

/-- The number nearest to a quotient. -/
def ofQuotient (negative : Bool) (numerator denominator : Nat) : Binary64 :=
  if numerator = 0 then zero negative
  else
    let exponent := max leastExponent (binaryOrder numerator denominator - 52)
    let significand := roundAt numerator denominator exponent
    let (significand, exponent) :=
      if significand = Nat.pow 2 53 then (Nat.pow 2 52, exponent + 1) else (significand, exponent)
    if greatestExponent < exponent then .infinity negative
    else .finite negative significand exponent

/-- The number nearest to `coefficient * 10 ^ scale`. Beyond 400 digits before the point, or
after it, the result is infinite or zero whatever the digits are. -/
def ofDecimal (negative : Bool) (coefficient : Nat) (scale : Int) : Binary64 :=
  let order : Int := scale + (digits coefficient).length
  if coefficient = 0 || order < -400 then zero negative
  else if 400 < order then .infinity negative
  else
    match scale with
    | .ofNat power => ofQuotient negative (coefficient * Nat.pow 10 power) 1
    | .negSucc power => ofQuotient negative coefficient (Nat.pow 10 (power + 1))

/-- Reads decimal notation or one of the names `inf`, `infinity` and `nan` in any case, with an
optional sign; single underscores may stand between digits. -/
def read (text : List Char) : Option Binary64 :=
  let (negative, body) := splitSign text
  let name := String.ofList (body.map Char.toLower)
  if name = "inf" || name = "infinity" then some (.infinity negative)
  else if name = "nan" then some .nan
  else
    (readNotation (dropGroupMarks body)).map fun notated =>
      ofDecimal negative notated.coefficient notated.scale

/-- The positive numbers that round to a given one lie between `low / unit` and `high / unit`;
the ends belong to them when the significand is even. -/
structure Span where
  value : Nat
  low : Nat
  high : Nat
  unit : Nat
  closed : Bool

def span (significand : Nat) (exponent : Int) : Span :=
  let below := if significand = Nat.pow 2 52 && leastExponent < exponent then 1 else 2
  let (scale, unit) :=
    match exponent with
    | .ofNat shift => (Nat.pow 2 shift, 4)
    | .negSucc shift => (1, 4 * Nat.pow 2 (shift + 1))
  { value := 4 * significand * scale
    low := (4 * significand - below) * scale
    high := (4 * significand + 2) * scale
    unit := unit
    closed := significand % 2 == 0 }

/-- `numerator / denominator` reads back. -/
def Span.holds (s : Span) (numerator denominator : Nat) : Bool :=
  let scaled := numerator * s.unit
  if s.closed then s.low * denominator ≤ scaled && scaled ≤ s.high * denominator
  else s.low * denominator < scaled && scaled < s.high * denominator

/-- The greatest `k` with `10 ^ k ≤ value / unit`, for a positive value. -/
def decimalOrder (value unit : Nat) : Int :=
  if unit ≤ value then Int.ofNat (digits (value / unit)).length - 1
  else
    let places := (digits (unit / value)).length
    if unit ≤ value * Nat.pow 10 (places - 1) then 1 - Int.ofNat places else -Int.ofNat places

/-- The two neighbours of a number on the grid of `count` digits, if one of them reads back: the
nearer of those that do. The result is a count of grid steps and the step's power of ten. -/
def shortestOn (s : Span) (order : Int) (count : Nat) : Option (Nat × Int) :=
  let power := order - (Int.ofNat count - 1)
  let (up, down) :=
    match power with
    | .ofNat k => (Nat.pow 10 k, 1)
    | .negSucc k => (1, Nat.pow 10 (k + 1))
  let below := s.value * down / (s.unit * up)
  let remainder := 2 * (s.value * down % (s.unit * up))
  let belowHolds := s.holds (below * up) down
  let aboveHolds := s.holds ((below + 1) * up) down
  let nearerAbove :=
    s.unit * up < remainder || (remainder == s.unit * up && below % 2 == 1)
  if belowHolds && !(aboveHolds && nearerAbove) then some (below, power)
  else if aboveHolds then some (below + 1, power)
  else none

/-- The fewest digits that read back; seventeen always do. -/
def shortest (s : Span) (order : Int) : Nat × Int :=
  ((List.range 17).findSome? fun n => shortestOn s order (n + 1)).getD (0, 0)

/-- Removes final zeros from digits, keeping one digit. -/
def dropFinalZeros (digits : List Char) : List Char :=
  match (digits.reverse.dropWhile (· == '0')).reverse with
  | [] => ['0']
  | kept => kept

/-- Digits `d₁d₂…` that stand for `0.d₁d₂… * 10 ^ point`. Positional notation from `10 ^ -4` up
to below `10 ^ 16`, always with a point; otherwise a power of ten of two digits or more. -/
def layout (digits : List Char) (point : Int) : List Char :=
  if -4 < point && point ≤ 16 then
    if point ≤ 0 then '0' :: '.' :: List.replicate point.natAbs '0' ++ digits
    else
      let whole := point.toNat
      if digits.length ≤ whole then
        digits ++ List.replicate (whole - digits.length) '0' ++ ['.', '0']
      else digits.take whole ++ '.' :: digits.drop whole
  else
    let power := point - 1
    let mantissa :=
      match digits with
      | [] => []
      | [d] => [d]
      | d :: rest => d :: '.' :: rest
    mantissa ++ ['e', if power < 0 then '-' else '+'] ++ padded 2 power.natAbs

def magnitudeText (significand : Nat) (exponent : Int) : List Char :=
  if significand = 0 then ['0', '.', '0']
  else
    let s := span significand exponent
    let (steps, power) := shortest s (decimalOrder s.value s.unit)
    let all := digits steps
    layout (dropFinalZeros all) (power + Int.ofNat all.length)

def text : Binary64 → String
  | .nan => "nan"
  | .infinity negative => if negative then "-inf" else "inf"
  | .finite negative significand exponent =>
    String.ofList ((if negative then ['-'] else []) ++ magnitudeText significand exponent)

end Binary64

end Stencil.Number
