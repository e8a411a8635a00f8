import Stencil.Function.Basic

/-! Sample actions, from which functions can be put together by name. Each works on a text or on
a list of texts. -/

namespace Stencil

inductive Sample where
  | exclaim
  | copies
  | wrap
  | count
  | chars
  | first
  | pair
  | nothing
  | arguments
  | boom
  | missing
  | silent
deriving DecidableEq, Repr

namespace Sample

/-- An operand as a sample receives it. -/
inductive Operand where
  | text (value : String)
  | texts (values : List String)

def Operand.value : Operand → Value
  | text value => .text value
  | texts values => .ofTexts values

/-- As many copies as the first argument says; none when it is negative. -/
def repeated : Operand → List Value → Except CallError Value
  | .text value, .integer times :: _ =>
    .ok (.text (String.join (List.replicate times.toNat value)))
  | .texts values, .integer times :: _ =>
    .ok (.ofTexts (List.replicate times.toNat values).flatten)
  | _, _ => .error .argumentKinds

/-- The text between the first and the last argument. -/
def wrapped : Operand → List Value → Except CallError Value
  | .text value, opening :: others =>
    .ok (.text (opening.display ++ value ++ (others.getLastD opening).display))
  | _, _ => .error .argumentKinds

def run (sample : Sample) (operand : Operand) (arguments : List Value) : Except CallError Value :=
  match sample, operand with
  | exclaim, .text value => .ok (.text (value ++ "!"))
  | exclaim, .texts _ => .error .argumentKinds
  | copies, operand => repeated operand arguments
  | wrap, operand => wrapped operand arguments
  | count, .text value => .ok (.integer value.toList.length)
  | count, .texts values => .ok (.integer values.length)
  | chars, .text value => .ok (.ofTexts (value.toList.map fun c => String.ofList [c]))
  | chars, .texts values => .ok (.ofTexts values)
  | first, .text value =>
    match value.toList with
    | [] => .error .emptyText
    | c :: _ => .ok (.text (String.ofList [c]))
  | first, .texts values =>
    match values with
    | [] => .error .emptySequence
    | value :: _ => .ok (.text value)
  | pair, operand => .ok (.tuple [operand.value, operand.value])
  | nothing, _ => .ok .null
  | Sample.arguments, _ => .ok (.list arguments)
  | boom, operand => .error (.refused operand.value.display)
  | missing, operand => .error (.missingKey operand.value)
  | silent, _ => .error .silent

/-- A function of sample actions; without one for sequences, that for texts is applied to every
element. -/
def function (name : String) (parameters : List ParameterKind) (onText : Sample)
    (onTexts : Option Sample) : Function where
  name := name
  parameters := parameters
  onText := fun value => onText.run (.text value)
  onTexts :=
    match onTexts with
    | some sample => fun values => sample.run (.texts values)
    | none => elementwise fun value => onText.run (.text value)

end Sample

end Stencil
