import Stencil.Failure
import Stencil.NameTable

/-! Functions that templates call. The first argument of a call is its operand, a text or a
sequence of texts; a function has one implementation for each. -/

namespace Stencil

inductive ParameterKind where
  | text
  | integer
  | float
  | flag
  | list
deriving DecidableEq, Repr

/-- A truth value is no integer, an integer no float and a tuple no list. -/
def ParameterKind.fits : ParameterKind → Value → Bool
  | text, .text _ => true
  | integer, .integer _ => true
  | float, .float _ => true
  | flag, .flag _ => true
  | list, .list _ => true
  | _, _ => false

/-- A function's work on a text, given the arguments behind the operand. -/
abbrev TextAction := String → List Value → Except CallError Value

/-- A function's work on a sequence of texts. -/
abbrev SequenceAction := List String → List Value → Except CallError Value

structure Function where
  name : String
  parameters : List ParameterKind
  onText : TextAction
  onTexts : SequenceAction

/-- The results of an action on each text of a sequence, up to the first that fails. -/
def resultsOf (action : TextAction) (arguments : List Value) :
    List String → Except CallError (List Value)
  | [] => .ok []
  | value :: rest => do
    let first ← action value arguments
    let others ← resultsOf action arguments rest
    return first :: others

/-- The action on every text of a sequence. -/
def elementwise (action : TextAction) : SequenceAction := fun values arguments =>
  (resultsOf action arguments values).map .list

/-- Arguments of the right number fit their parameters, one by one. -/
def allFit : List ParameterKind → List Value → Bool
  | kind :: kinds, value :: values => kind.fits value && allFit kinds values
  | _, _ => true

/-- The work on an operand. -/
def Function.apply (function : Function) (operand : Value) (arguments : List Value) :
    Except CallError Value :=
  match operand with
  | .text value => function.onText value arguments
  | other =>
    match other.texts? with
    | some values => function.onTexts values arguments
    | none => .error .argumentKinds

/-- Calls the function. The number of arguments is checked first, then their kinds, then the
operand. -/
def Function.invoke (function : Function) : List Value → Except CallError Value
  | [] => .error .argumentCount
  | operand :: arguments =>
    if arguments.length ≠ function.parameters.length then .error .argumentCount
    else if allFit function.parameters arguments then function.apply operand arguments
    else .error .argumentKinds

/-- The functions that templates can call, by name. -/
abbrev Registry := NameTable Function

namespace Registry

/-- Adds a function, in place of one of the same name. -/
def add (registry : Registry) (function : Function) : Registry :=
  registry.put function.name function

/-- Adds a function, whose name must not be empty. -/
def register (registry : Registry) (function : Function) : Except Failure Registry :=
  if function.name = "" then .error .emptyFunctionName else .ok (registry.add function)

end Registry

end Stencil
