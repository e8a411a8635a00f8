import Stencil.Duration

/-! Days and moments of the Gregorian calendar, and their written forms. -/

namespace Stencil

open Number

structure Date where
  year : Nat
  month : Nat
  day : Nat
deriving DecidableEq, Repr

/-- A time zone by its offset from universal time, and by a name if it has one. -/
structure Zone where
  offset : Duration
  name : Option String
deriving DecidableEq, Repr

/-- A day and a time, with its zone where that is known. -/
structure Moment where
  date : Date
  hour : Nat
  minute : Nat
  second : Nat
  microsecond : Nat
  zone : Option Zone
deriving DecidableEq, Repr

/-- Why numbers are no day, no time or no zone. -/
inductive CalendarError where
  | year (value : Nat)
  | month
  | day
  | hour
  | minute
  | second
  /-- An offset of a day or more. -/
  | offset (value : Duration)
  /-- Behind the last moment of the last year. -/
  | beyondEnd
deriving DecidableEq, Repr

def CalendarError.message : CalendarError → String
  | .year value => "year " ++ String.ofList (digits value) ++ " is out of range"
  | .month => "month must be in 1..12"
  | .day => "day is out of range for month"
  | .hour => "hour must be in 0..23"
  | .minute => "minute must be in 0..59"
  | .second => "second must be in 0..59"
  | .offset value =>
    "offset must be a timedelta strictly between -timedelta(hours=24) and timedelta(hours=24), not "
      ++ value.literal ++ "."
  | .beyondEnd => "date value out of range"

def isLeap (year : Nat) : Bool := year % 4 == 0 && (year % 100 != 0 || year % 400 == 0)

def daysInMonth (year month : Nat) : Nat :=
  if month = 2 then if isLeap year then 29 else 28
  else if month = 4 || month = 6 || month = 9 || month = 11 then 30
  else 31

def Date.check (date : Date) : Except CalendarError Date :=
  if date.year < 1 || 9999 < date.year then .error (.year date.year)
  else if date.month < 1 || 12 < date.month then .error .month
  else if date.day < 1 || daysInMonth date.year date.month < date.day then .error .day
  else .ok date

def Moment.check (moment : Moment) : Except CalendarError Moment := do
  let _ ← moment.date.check
  if 23 < moment.hour then .error .hour
  else if 59 < moment.minute then .error .minute
  else if 59 < moment.second then .error .second
  else .ok moment

def Zone.check (zone : Zone) : Except CalendarError Zone :=
  if zone.offset.micros.natAbs < 86400000000 then .ok zone else .error (.offset zone.offset)

/-- The day after a day, up to the end of the last year. -/
def Date.next (date : Date) : Except CalendarError Date :=
  if date.day < daysInMonth date.year date.month then .ok { date with day := date.day + 1 }
  else if date.month < 12 then .ok ⟨date.year, date.month + 1, 1⟩
  else if date.year < 9999 then .ok ⟨date.year + 1, 1, 1⟩
  else .error .beyondEnd

/-- The moment one second later. -/
def Moment.nextSecond (moment : Moment) : Except CalendarError Moment :=
  if moment.second < 59 then .ok { moment with second := moment.second + 1 }
  else if moment.minute < 59 then .ok { moment with minute := moment.minute + 1, second := 0 }
  else if moment.hour < 23 then
    .ok { moment with hour := moment.hour + 1, minute := 0, second := 0 }
  else do
    let date ← moment.date.next
    return { moment with date := date, hour := 0, minute := 0, second := 0 }

def Date.first : Date := ⟨1, 1, 1⟩

def Date.last : Date := ⟨9999, 12, 31⟩

def Moment.first : Moment := ⟨.first, 0, 0, 0, 0, none⟩

def Moment.last : Moment := ⟨.last, 23, 59, 59, 999999, none⟩

/-- The days before the first of January of a year. -/
def daysBeforeYear (year : Nat) : Nat :=
  let before := year - 1
  before * 365 + before / 4 - before / 100 + before / 400

def daysBeforeMonth (year month : Nat) : Nat :=
  (List.range (month - 1)).foldl (fun days index => days + daysInMonth year (index + 1)) 0

/-- The number of a day, counted from the first of January of year 1. -/
def Date.ordinal (date : Date) : Nat :=
  daysBeforeYear date.year + daysBeforeMonth date.year date.month + date.day

/-- Microseconds on the clock of the moment's own place. -/
def Moment.clock (moment : Moment) : Int :=
  let minutes := (moment.date.ordinal * 24 + moment.hour) * 60 + moment.minute
  Int.ofNat ((minutes * 60 + moment.second) * 1000000 + moment.microsecond)

/-- Two moments are the same instant. Without a zone only clocks can be compared, and only with
each other. -/
def Moment.same (a b : Moment) : Bool :=
  match a.zone, b.zone with
  | none, none => a.clock == b.clock
  | some x, some y => a.clock - x.offset.micros == b.clock - y.offset.micros
  | _, _ => false

/-! ### Written forms -/

def Date.characters (date : Date) : List Char :=
  padded 4 date.year ++ '-' :: padded 2 date.month ++ '-' :: padded 2 date.day

def Date.text (date : Date) : String := String.ofList date.characters

/-- Hours and minutes, then seconds and microseconds as far as they are not zero. -/
def Zone.characters (zone : Zone) : List Char :=
  let offset := zone.offset.micros
  let size := offset.natAbs
  let seconds := size / 1000000
  let micros := size % 1000000
  (if offset < 0 then '-' else '+') :: padded 2 (seconds / 3600) ++
    ':' :: padded 2 (seconds / 60 % 60) ++
    (if seconds % 60 = 0 && micros = 0 then [] else ':' :: padded 2 (seconds % 60)) ++
    (if micros = 0 then [] else '.' :: padded 6 micros)

/-- Day, separator and time; microseconds only when there are some. -/
def Moment.characters (separator : Char) (moment : Moment) : List Char :=
  moment.date.characters ++ separator :: padded 2 moment.hour ++ ':' :: padded 2 moment.minute ++
    ':' :: padded 2 moment.second ++
    (if moment.microsecond = 0 then [] else '.' :: padded 6 moment.microsecond) ++
    (match moment.zone with
      | none => []
      | some zone => zone.characters)

def Moment.text (moment : Moment) : String := String.ofList (moment.characters ' ')

/-- The form with a `T` between day and time. -/
def Moment.isoText (moment : Moment) : String := String.ofList (moment.characters 'T')

/-! ### Reading -/

/-- Exactly `count` digits at the start of a text, and what follows them. -/
def takeDigits (count : Nat) (text : List Char) : Option (Nat × List Char) :=
  let front := text.take count
  if front.length = count && front.all isDigit then some (ofDigits front, text.drop count)
  else none

/-- A character that must stand at the start of a text, and what follows it. -/
def skipMark (mark : Char) : List Char → Option (List Char)
  | c :: rest => if c = mark then some rest else none
  | [] => none

/-- Reads `2024-05-17` or `20240517` at the start of a text. -/
def readDate (text : List Char) : Option (Date × List Char) := do
  let (year, rest) ← takeDigits 4 text
  match skipMark '-' rest with
  | some rest =>
    let (month, rest) ← takeDigits 2 rest
    let rest ← skipMark '-' rest
    let (day, rest) ← takeDigits 2 rest
    some (⟨year, month, day⟩, rest)
  | none =>
    let (month, rest) ← takeDigits 2 rest
    let (day, rest) ← takeDigits 2 rest
    some (⟨year, month, day⟩, rest)

/-- Microseconds from the digits of a fraction of a second; digits after the sixth are cut. -/
def fractionMicros (fraction : List Char) : Nat :=
  ofDigits ((fraction ++ List.replicate 6 '0').take 6)

/-- Hour, minute, second and microsecond; all but the hour may be left off from the end. -/
def readTime (text : List Char) : Option ((Nat × Nat × Nat × Nat) × List Char) := do
  let (hour, rest) ← takeDigits 2 text
  let next (rest : List Char) := takeDigits 2 ((skipMark ':' rest).getD rest)
  match next rest with
  | none => some ((hour, 0, 0, 0), rest)
  | some (minute, rest) =>
    match next rest with
    | none => some ((hour, minute, 0, 0), rest)
    | some (second, rest) =>
      match rest with
      | mark :: more =>
        let fraction := more.takeWhile isDigit
        if (mark = '.' || mark = ',') && !fraction.isEmpty then
          some ((hour, minute, second, fractionMicros fraction), more.dropWhile isDigit)
        else some ((hour, minute, second, 0), rest)
      | [] => some ((hour, minute, second, 0), rest)

/-- A zone fills the rest of a text: nothing, `Z`, or a sign and a time. -/
def readZone : List Char → Option (Option Zone)
  | [] => some none
  | ['Z'] => some (some ⟨⟨0⟩, none⟩)
  | mark :: rest =>
    if mark = '+' || mark = '-' then
      match readTime rest with
      | some ((hour, minute, second, micros), []) =>
        let size := ((hour * 60 + minute) * 60 + second) * 1000000 + micros
        some (some ⟨⟨signed (mark = '-') size⟩, none⟩)
      | _ => none
    else none

def Date.read (text : List Char) : Option Date :=
  match readDate text with
  | some (date, []) => date.check.toOption
  | _ => none

/-- Reads a day, alone or followed by any one character and a time. -/
def Moment.read (text : List Char) : Option Moment := do
  let (date, rest) ← readDate text
  match rest with
  | [] => (Moment.check ⟨date, 0, 0, 0, 0, none⟩).toOption
  | _ :: rest =>
    let ((hour, minute, second, micros), rest) ← readTime rest
    let zone ← readZone rest
    (Moment.check ⟨date, hour, minute, second, micros, zone⟩).toOption

end Stencil
