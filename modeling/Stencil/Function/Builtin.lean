import Stencil.Function.Basic
import Stencil.Text.Blank
import Stencil.Text.Search

/-! The standard functions. -/

namespace Stencil

open Text

/-- Why a negative count is refused. -/
def countError (count : Int) : CallError :=
  if (Value.integer count).isWritable then .negativeCount count else .unwritable

/-- A count of characters or items, which must not be negative. -/
def checkCount (count : Int) : Except CallError Nat :=
  if count < 0 then .error (countError count) else .ok count.toNat

/-- The pieces between separators without the blanks around them; blank pieces are dropped. An
empty separator does not cut. -/
def splitText (separator value : String) : List String :=
  let pieces :=
    if separator = "" then [value.toList] else cut separator.toList value.toList
  (pieces.map trimmed).filterMap fun piece =>
    if piece.isEmpty then none else some (String.ofList piece)

def replaceText (old new value : String) : String :=
  String.ofList (substitute old.toList new.toList value.toList)

def takeText (count : Nat) (value : String) : String := String.ofList (value.toList.take count)

def skipText (count : Nat) (value : String) : String := String.ofList (value.toList.drop count)

def reverseText (value : String) : String := String.ofList value.toList.reverse

namespace Builtin

/-- A transformation of a text that takes no further argument. -/
def plain (change : String → String) : TextAction
  | value, _ => .ok (.text (change value))

/-- The first characters of a text. -/
def head : TextAction
  | value, [.integer count] => do return .text (takeText (← checkCount count) value)
  | _, _ => .error .argumentKinds

def split : Function where
  name := "split"
  parameters := [.text]
  onText
    | value, [.text separator] => .ok (.ofTexts (splitText separator value))
    | _, _ => .error .argumentKinds
  onTexts
    | values, [.text separator] => .ok (.ofTexts (values.flatMap (splitText separator)))
    | _, _ => .error .argumentKinds

def join : Function where
  name := "join"
  parameters := [.text]
  onText := plain id
  onTexts
    | values, [.text separator] => .ok (.text (separator.intercalate values))
    | _, _ => .error .argumentKinds

def skip : Function where
  name := "skip"
  parameters := [.integer]
  onText
    | value, [.integer count] => do return .text (skipText (← checkCount count) value)
    | _, _ => .error .argumentKinds
  onTexts
    | values, [.integer count] => do return .ofTexts (values.drop (← checkCount count))
    | _, _ => .error .argumentKinds

def take : Function where
  name := "take"
  parameters := [.integer]
  onText := head
  onTexts
    | values, [.integer count] => do return .ofTexts (values.take (← checkCount count))
    | _, _ => .error .argumentKinds

def substr : Function where
  name := "substr"
  parameters := [.integer]
  onText := head
  onTexts := elementwise head

def replaceAction : TextAction
  | value, [.text old, .text new] =>
    if old = "" then .error .emptyPattern else .ok (.text (replaceText old new value))
  | _, _ => .error .argumentKinds

def replace : Function where
  name := "replace"
  parameters := [.text, .text]
  onText := replaceAction
  onTexts := elementwise replaceAction

def reverse : Function where
  name := "reverse"
  parameters := []
  onText := plain reverseText
  onTexts := fun values _ => .ok (.ofTexts values.reverse)

def upper : Function where
  name := "upper"
  parameters := []
  onText := plain Text.upper
  onTexts := elementwise (plain Text.upper)

def lower : Function where
  name := "lower"
  parameters := []
  onText := plain Text.lower
  onTexts := elementwise (plain Text.lower)

def trim : Function where
  name := "trim"
  parameters := []
  onText := plain Text.trim
  onTexts := elementwise (plain Text.trim)

def truncate : Function where
  name := "truncate"
  parameters := [.integer]
  onText := head
  onTexts := elementwise head

end Builtin

open Builtin in
/-- The standard functions, in the order in which error messages list them. -/
def builtins : List Function :=
  [split, join, skip, take, substr, replace, reverse, Builtin.upper, Builtin.lower, Builtin.trim,
    truncate]

def Registry.builtin : Registry := builtins.foldl Registry.add .empty

end Stencil
