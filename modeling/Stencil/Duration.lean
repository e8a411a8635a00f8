import Stencil.Number.Digits

/-! Lengths of time and their written forms. -/

namespace Stencil

open Number

structure Duration where
  micros : Int
deriving DecidableEq, Repr

namespace Duration

def ofSeconds (seconds : Int) : Duration := ⟨seconds * 1000000⟩

/-- Minus 999999999 days. -/
def least : Duration := .ofSeconds (-999999999 * 86400)

/-- One microsecond less than a thousand million days. -/
def greatest : Duration := ⟨1000000000 * 86400000000 - 1⟩

/-- Whole days, rounded down: only the days of a duration can be negative. -/
def days (duration : Duration) : Int := duration.micros.fdiv 86400000000

/-- What is left of the last day, in microseconds. -/
def withinDay (duration : Duration) : Nat := (duration.micros.fmod 86400000000).toNat

def seconds (duration : Duration) : Nat := duration.withinDay / 1000000

def microseconds (duration : Duration) : Nat := duration.withinDay % 1000000

/-- Days if there are any, then hours, minutes and seconds, then microseconds if there are any. -/
def characters (duration : Duration) : List Char :=
  let seconds := duration.seconds
  (if duration.days = 0 then []
    else integerText duration.days ++
      (if duration.days.natAbs = 1 then " day, " else " days, ").toList) ++
    digits (seconds / 3600) ++ ':' :: padded 2 (seconds / 60 % 60) ++
    ':' :: padded 2 (seconds % 60) ++
    (if duration.microseconds = 0 then [] else '.' :: padded 6 duration.microseconds)

def text (duration : Duration) : String := String.ofList duration.characters

/-- A named part of a duration, unless it is zero. -/
def part (name : String) (value : Int) : List String :=
  if value = 0 then [] else [name ++ "=" ++ String.ofList (integerText value)]

/-- The days, seconds and microseconds that are not zero, by name. -/
def literal (duration : Duration) : String :=
  let parts :=
    part "days" duration.days ++ part "seconds" duration.seconds ++
      part "microseconds" duration.microseconds
  "datetime.timedelta(" ++ (if parts.isEmpty then "0" else ", ".intercalate parts) ++ ")"

end Duration

end Stencil
