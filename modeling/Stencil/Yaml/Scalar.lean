import Stencil.Value.Written
import Stencil.Yaml.Fault

/-! Plain scalars: the kind of value that a text without quotes stands for. What is no null,
truth value, number or date is text. -/

namespace Stencil.Yaml

open Number

def nullWords : List (List Char) := ["", "~", "null", "Null", "NULL"].map String.toList

def trueWords : List (List Char) := ["true", "True", "TRUE"].map String.toList

def falseWords : List (List Char) := ["false", "False", "FALSE"].map String.toList

def infinityWords : List (List Char) := [".inf", ".Inf", ".INF"].map String.toList

def nanWords : List (List Char) := [".nan", ".NaN", ".NAN"].map String.toList

/-- Marks that mean something as a key, but stand for no value. -/
def reservedWords : List (List Char) := ["=", "<<"].map String.toList

/-! ### Whole numbers -/

def isGroupMark (c : Char) : Bool := c = '_'

def isGrouped (c : Char) : Bool := isDigit c || isGroupMark c

/-- The base of an unsigned whole number and its digits with group marks, if it is one. -/
def splitBase : List Char → Option (Nat × List Char)
  | '0' :: 'b' :: rest =>
    if !rest.isEmpty && rest.all (fun c => c = '0' || c = '1' || isGroupMark c) then some (2, rest)
    else none
  | '0' :: 'o' :: rest =>
    if !rest.isEmpty && rest.all (fun c => ('0' ≤ c && c ≤ '7') || isGroupMark c) then
      some (8, rest)
    else none
  | '0' :: 'x' :: rest =>
    if !rest.isEmpty && rest.all (fun c => isHexadecimal c || isGroupMark c) then some (16, rest)
    else none
  | text => if !text.isEmpty && text.all isGrouped then some (10, text) else none

/-- Reads a whole number with an optional sign, in decimal or to the base that follows a zero:
`0b`, `0o` or `0x`. -/
def readInteger (text : List Char) : Option (Except Fault Int) := do
  let (negative, body) := splitSign text
  let (base, digits) ← splitBase body
  let digits := digits.filter (!isGroupMark ·)
  if text.head?.any isGroupMark then none
  else if digits.isEmpty then some (.error (.noDigits base))
  else if base = 10 && Value.longestInteger < digits.length then
    some (.error (.numberTooLong digits.length))
  else some (.ok (signed negative (ofDigitsTo base digits)))

/-! ### Numbers with a point or an exponent -/

/-- A power of ten after `e` or `E`, with a sign unless it may be left out. -/
def isExponent (unsignedToo : Bool) : List Char → Bool
  | mark :: rest =>
    let digits := if rest.head?.any (fun c => c = '+' || c = '-') then rest.drop 1 else rest
    (mark = 'e' || mark = 'E') && !digits.isEmpty && digits.all isDigit &&
      (unsignedToo || digits.length < rest.length)
  | [] => false

/-- The text without its sign is a number with a point, an exponent or both. An exponent after
a number that starts with its point has to have a sign. -/
def isFloat (body : List Char) : Bool :=
  let rest := body.dropWhile isGrouped
  let startsWithDigit := body.head?.any isDigit
  match rest with
  | '.' :: more =>
    let tail := more.dropWhile isGrouped
    if rest.length = body.length then
      more.head?.any isGrouped && (tail.isEmpty || isExponent false tail)
    else startsWithDigit && (tail.isEmpty || isExponent true tail)
  | _ => startsWithDigit && isExponent true rest

def readFloat (text : List Char) : Option (Except Fault Binary64) :=
  let (negative, body) := splitSign text
  if nanWords.contains text then some (.ok .nan)
  else if infinityWords.contains body then some (.ok (.infinity negative))
  else if isFloat body then
    match Binary64.read (text.filter (!isGroupMark ·)) with
    | some value => some (.ok value)
    | none =>
      some (.error (.noNumber (String.ofList ((body.filter (!isGroupMark ·)).map Char.toLower))))
  else none

/-! ### Dates -/

def checked {α : Type} : Except CalendarError α → Except Fault α
  | .ok value => .ok value
  | .error error => .error (.calendar error)

/-- One or two digits at the start of a text, and what follows them. -/
def takeShort (text : List Char) : Option (Nat × List Char) :=
  (takeDigits 2 text).or (takeDigits 1 text)

/-- Reads a day of the form `2024-05-17`, whether there is such a day or not. -/
def readDay (text : List Char) : Option Date := do
  let (year, rest) ← takeDigits 4 text
  let (month, rest) ← takeDigits 2 (← skipMark '-' rest)
  let (day, rest) ← takeDigits 2 (← skipMark '-' rest)
  if rest.isEmpty then some ⟨year, month, day⟩ else none

def isGap (c : Char) : Bool := c = ' ' || c = '\t'

/-- What follows the mark or the gap between day and time. -/
def skipSeparator : List Char → Option (List Char)
  | c :: rest =>
    if c = 'T' || c = 't' then some rest
    else if isGap c then some (rest.dropWhile isGap)
    else none
  | [] => none

/-- A zone, which has its own text for a name: `Z`, or an offset of hours and perhaps minutes.
Nothing stands for no zone. -/
def readZone (text : List Char) : Option (Option Zone) :=
  let zone (minutes : Int) : Option (Option Zone) :=
    some (some ⟨.ofSeconds (minutes * 60), some (String.ofList text)⟩)
  match text with
  | [] => some none
  | ['Z'] => zone 0
  | mark :: rest =>
    if mark = '+' || mark = '-' then do
      let (hours, rest) ← takeShort rest
      let (minutes, rest) ←
        match rest with
        | ':' :: rest => takeDigits 2 rest
        | _ => some (0, rest)
      if rest.isEmpty then zone (signed (mark = '-') (hours * 60 + minutes)) else none
    else none

/-- The seventh digit of a fraction of a second rounds the sixth. -/
def roundedMicros (fraction : List Char) : Nat :=
  fractionMicros fraction + if (fraction[6]?).any ('4' < ·) then 1 else 0

/-- A moment whose microseconds may make up a whole second. -/
def settleMicros (moment : Moment) : Except CalendarError Moment :=
  if moment.microsecond < 1000000 then moment.check
  else do
    let moment ← { moment with microsecond := 0 }.check
    moment.nextSecond

/-- Checks the zone, then the day and the time. -/
def settle (moment : Moment) : Except CalendarError Moment :=
  match moment.zone with
  | none => settleMicros moment
  | some zone => do
    let _ ← zone.check
    settleMicros moment

/-- Reads a day and a time of the form `2024-05-17 10:00:00`, whether there is such a moment or
not. -/
def readMoment (text : List Char) : Option Moment := do
  let (year, rest) ← takeDigits 4 text
  let (month, rest) ← takeShort (← skipMark '-' rest)
  let (day, rest) ← takeShort (← skipMark '-' rest)
  let (hour, rest) ← takeShort (← skipSeparator rest)
  let (minute, rest) ← takeDigits 2 (← skipMark ':' rest)
  let (second, rest) ← takeDigits 2 (← skipMark ':' rest)
  let (fraction, rest) :=
    match rest with
    | '.' :: more => (more.takeWhile isDigit, more.dropWhile isDigit)
    | _ => ([], rest)
  let zone ← readZone (rest.dropWhile isGap)
  some ⟨⟨year, month, day⟩, hour, minute, second, roundedMicros fraction, zone⟩

/-! ### All kinds -/

/-- The value of a plain scalar. -/
def scalar (text : List Char) : Except Fault Value :=
  if nullWords.contains text then .ok .null
  else if trueWords.contains text then .ok (.flag true)
  else if falseWords.contains text then .ok (.flag false)
  else if reservedWords.contains text then .error .malformed
  else
    match readInteger text, readFloat text, readDay text, readMoment text with
    | some integer, _, _, _ => integer.map .integer
    | none, some float, _, _ => float.map .float
    | none, none, some day, _ => (checked day.check).map .date
    | none, none, none, some moment => (checked (settle moment)).map .moment
    | none, none, none, none => .ok (.text (String.ofList text))

end Stencil.Yaml
