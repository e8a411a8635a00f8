import Stencil.Function.Basic
import Stencil.Node.Source
import Stencil.Source

/-! Evaluation of expressions and rendering of lines. -/

namespace Stencil

/-- Texts that stand for what would be shown as nothing, and the text between the items of a
sequence. Where one is missing, whatever has to show it fails. -/
structure Options where
  nullText : Option String := some "<null>"
  emptyText : Option String := some "<empty>"
  separator : Option String := some " "
deriving DecidableEq, Repr

structure Evaluator where
  functions : Registry
  options : Options

def displays (values : List Value) : List String := values.map Value.display

/-- A text that is shown in a line behind so many others, and that the options may lack. -/
def showText (place : Nat) : Option String → Except Failure String
  | some text => .ok text
  | none => .error (.missingText place)

/-- Texts one behind the other, of which so many come before. -/
def showTexts (place : Nat) : List (Option String) → Except Failure String
  | [] => .ok ""
  | shown :: rest => do
    let text ← showText place shown
    let others ← showTexts (place + 1) rest
    return text ++ others

namespace Options

/-- The items of a sequence with the separator between them. -/
def showItems (options : Options) (items : List Value) : Except Failure (Option String) :=
  if items.isEmpty then .ok options.emptyText
  else
    match options.separator with
    | none => .error .missingSeparator
    | some separator =>
      if Value.areWritable items then .ok (some (separator.intercalate (displays items)))
      else .error .unwritable

/-- What a hole shows. It is one of the texts of the options where nothing would be seen. -/
def shown (options : Options) : Value → Except Failure (Option String)
  | .null => .ok options.nullText
  | .text value => .ok (if value = "" then options.emptyText else some value)
  | .list items => options.showItems items
  | .tuple items => options.showItems items
  | value => value.shown.map some

/-- The text of a hole, which stands in its line behind so many other texts. -/
def render (options : Options) (place : Nat) (value : Value) : Except Failure String := do
  showText place (← options.shown value)

end Options

def evaluationFailure {α : Type} (cause : EvaluationCause) (position : Position) :
    Except Failure α :=
  .error (.template (.evaluation cause position))

namespace Evaluator

def property (source : Source) (name : String) (position : Position) : Except Failure Value :=
  match source.find? name with
  | some value => .ok value
  | none => evaluationFailure (.unknownProperty name source.names) position

/-- Calls a function by its name with values for its arguments. -/
def call (functions : Registry) (name : String) (values : List Value) (position : Position) :
    Except Failure Value :=
  match functions.find? name with
  | none => evaluationFailure (.unknownFunction name functions.names) position
  | some function =>
    match function.invoke values with
    | .ok value => .ok value
    | .error cause => evaluationFailure (.failedCall name cause) position

mutual

/-- The value of an expression. The arguments of a call are evaluated from left to right before
the function is looked up; a pipe makes the value of its left side the first argument of the
call, or of the name, on its right. -/
def evaluate (self : Evaluator) (source : Source) : Node → Except Failure Value
  | .text value _ => .ok (.text value)
  | .constant value _ => .ok value
  | .property name position => property source name position
  | .call name arguments position => do
    let values ← evaluateAll self source arguments
    call self.functions name values position
  | .pipe left (.property name place) _ => do
    let value ← evaluate self source left
    call self.functions name [value] place
  | .pipe left (.call name arguments place) _ => do
    let value ← evaluate self source left
    let values ← evaluateAll self source arguments
    call self.functions name (value :: values) place
  | .pipe left target position => do
    let _ ← evaluate self source left
    evaluationFailure (.pipeTarget target.source) position
  | .line parts _ => do
    let texts ← renderParts self source parts
    return .text (← showTexts 0 texts)
  | .template _ => evaluationFailure .nestedTemplate .unknown
  | .bare => .error .unknownNode

def evaluateAll (self : Evaluator) (source : Source) : List Node → Except Failure (List Value)
  | [] => .ok []
  | node :: rest => do
    let value ← evaluate self source node
    let values ← evaluateAll self source rest
    return value :: values

/-- Text is written as it is, the value of a hole as the options say. A text that the options lack
is found missing only when the whole line has been evaluated. -/
def renderParts (self : Evaluator) (source : Source) :
    List Node → Except Failure (List (Option String))
  | [] => .ok []
  | .text value _ :: rest => do
    let texts ← renderParts self source rest
    return some value :: texts
  | node :: rest => do
    let value ← evaluate self source node
    let text ← self.options.shown value
    let texts ← renderParts self source rest
    return text :: texts

end

def renderLine (self : Evaluator) (source : Source) (line : Line) : Except Failure String := do
  let texts ← self.renderParts source line.parts
  showTexts 0 texts

end Evaluator

/-- The lines up to the end, or up to a failure. -/
structure Rendering where
  lines : List String
  failure : Option Failure

namespace Evaluator

def renderLines (self : Evaluator) (source : Source) : List Line → Rendering
  | [] => ⟨[], none⟩
  | line :: rest =>
    match self.renderLine source line with
    | .error failure => ⟨[], some failure⟩
    | .ok text =>
      let others := renderLines self source rest
      ⟨text :: others.lines, others.failure⟩

def render (self : Evaluator) (template : Template) (source : Source) : Rendering :=
  self.renderLines source template.lines

end Evaluator

/-- All lines, unless one of them failed. -/
def Rendering.complete (rendering : Rendering) : Except Failure (List String) :=
  match rendering.failure with
  | none => .ok rendering.lines
  | some failure => .error failure

end Stencil
