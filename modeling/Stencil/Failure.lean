import Stencil.Token.Basic
import Stencil.Value.Written

/-! Everything that can go wrong, by cause. A template error is the fault of the template or of
the data it is given and points to a place in its text; the other failures are misuse. -/

namespace Stencil

open Number

inductive LexicalCause where
  | unterminatedHole
  | unterminatedString
  | lineBreakInHole
  | numberOutOfRange (literal : String)
  | strayInHole (c : Char)
  | strayInText (c : Char)

/-- What the grammar allows at a place where something else was found. -/
inductive Expectation where
  | openHole
  | pipeOrCloseHole
  | argument
  | identifier
  | openParen
  | commaOrCloseParen
  | argumentOrCloseParen
  | lineBreakOrEnd
deriving DecidableEq, Repr

/-- Why a function refused a call. -/
inductive CallError where
  | argumentCount
  | argumentKinds
  | negativeCount (count : Int)
  /-- A message about a number too long to be written. -/
  | unwritable
  | emptyPattern
  | emptyText
  | emptySequence
  | missingKey (key : Value)
  | refused (message : String)
  | silent

inductive EvaluationCause where
  | unknownProperty (name : String) (available : List String)
  | unknownFunction (name : String) (available : List String)
  | failedCall (function : String) (cause : CallError)
  | pipeTarget (target : String)
  | nestedTemplate
  /-- Raised by the data itself while it was read. -/
  | reported (message : String)

inductive TemplateError where
  | lexical (cause : LexicalCause) (position : Position)
  | grammar (found : Token) (expected : Expectation)
  | evaluation (cause : EvaluationCause) (position : Position)

inductive Failure where
  | template (error : TemplateError)
  /-- A number literal is too long to be read at all. -/
  | numberTooLong (digits : Nat)
  /-- A number is too long to be written. -/
  | unwritable
  /-- The text that a hole shows is missing; so many texts come before it in its line. -/
  | missingText (place : Nat)
  | missingSeparator
  /-- A token was requested behind the end of the input. -/
  | noMoreTokens
  | unknownNode
  | missingValues
  | missingModel
  | missingTemplate
  | duplicateName (name first : String)
  | emptyFunctionName
  | brokenGetter (message : String)
  | call (error : CallError)
  /-- A step of a session names an object that is not there. -/
  | unknownObject (name : String)

def LexicalCause.message : LexicalCause → String
  | unterminatedHole => "Unexpected end of input: unterminated hole, expected '\x7d'"
  | unterminatedString => "Unterminated string literal"
  | lineBreakInHole => "Line break inside hole, expected '\x7d' before the end of the line"
  | numberOutOfRange literal =>
    "Invalid number literal '" ++ literal ++ "': value is outside the 32-bit integer range"
  | strayInHole c => "Unexpected character " ++ Text.quoted (String.ofList [c]) ++ " in hole"
  | strayInText c => "Unexpected character " ++ Text.quoted (String.ofList [c]) ++ " in text"

def Expectation.description : Expectation → String
  | openHole => "'\x7b'"
  | pipeOrCloseHole => "'|' or '\x7d'"
  | argument => "number, string or identifier"
  | identifier => "identifier"
  | openParen => "'('"
  | commaOrCloseParen => "',' or ')'"
  | argumentOrCloseParen => "argument or ')'"
  | lineBreakOrEnd => "line break or end of input"

def unwritableMessage : String :=
  "Exceeds the limit (4300 digits) for integer string conversion; "
    ++ "use sys.set_int_max_str_digits() to increase the limit"

def CallError.message : CallError → String
  | argumentCount => "Parameter count mismatch."
  | argumentKinds => "Method not supported for these argument types."
  | negativeCount count =>
    "Count must be non-negative, got " ++ String.ofList (integerText count)
  | unwritable => unwritableMessage
  | emptyPattern => "Value to replace must not be empty"
  | emptyText => "string index out of range"
  | emptySequence => "list index out of range"
  | missingKey key => key.literal
  | refused message => message
  | silent => ""

/-- The kind of an error, as traces name it. -/
def CallError.kind : CallError → String
  | argumentCount => "FunctionArgumentError"
  | argumentKinds => "FunctionArgumentError"
  | negativeCount _ => "ValueError"
  | unwritable => "ValueError"
  | emptyPattern => "ValueError"
  | emptyText => "IndexError"
  | emptySequence => "IndexError"
  | missingKey _ => "KeyError"
  | refused _ => "RuntimeError"
  | silent => "ValueError"

def EvaluationCause.message : EvaluationCause → String
  | unknownProperty name available =>
    "Unknown property '" ++ name ++ "'. Available properties: " ++ listed available
  | unknownFunction name available =>
    "Unknown function '" ++ name ++ "'. Available functions: " ++ listed available
  | failedCall function cause =>
    "An error occurred while calling function '" ++ function ++ "': " ++ cause.message
  | pipeTarget target =>
    "Cannot pipe into '" ++ target ++ "': expected a function call or function name"
  | nestedTemplate => "Multi-line templates can only be evaluated at the top level"
  | reported message => message

def EvaluationCause.kind : EvaluationCause → String
  | unknownProperty .. => "unknown-property"
  | unknownFunction .. => "unknown-function"
  | failedCall .. => "invocation"
  | pipeTarget .. => "unsupported-pipe"
  | nestedTemplate => "evaluation"
  | reported .. => "evaluation"

namespace TemplateError

def message : TemplateError → String
  | lexical cause _ => cause.message
  | grammar found expected =>
    "Syntax error: unexpected " ++ found.description ++ ", expected " ++ expected.description
  | evaluation cause _ => cause.message

def position : TemplateError → Position
  | lexical _ position => position
  | grammar found _ => found.position
  | evaluation _ position => position

def kind : TemplateError → String
  | lexical .. => "lexical"
  | grammar .. => "syntax"
  | evaluation cause _ => cause.kind

/-- The template text itself is at fault. -/
def isSyntactic : TemplateError → Bool
  | lexical .. => true
  | grammar .. => true
  | evaluation .. => false

/-- The message, followed by the place where one is known. -/
def describe (error : TemplateError) : String :=
  if error.position.isKnown then
    error.message ++ " (at line " ++ Position.number error.position.line ++ ", column "
      ++ Position.number error.position.column ++ ")"
  else error.message

end TemplateError

def Failure.message : Failure → String
  | template error => error.message
  | numberTooLong count =>
    "Exceeds the limit (4300 digits) for integer string conversion: value has "
      ++ naturalText count ++ " digits; use sys.set_int_max_str_digits() to increase the limit"
  | unwritable => unwritableMessage
  | missingText place =>
    "sequence item " ++ naturalText place ++ ": expected str instance, list found"
  | missingSeparator => "'list' object has no attribute 'join'"
  | noMoreTokens => ""
  | unknownNode => "Unknown expression type: Expression"
  | missingValues => "values must not be None"
  | missingModel => "model must not be None"
  | missingTemplate => "template must not be None"
  | duplicateName name first =>
    "Duplicate property name '" ++ name ++ "' (conflicts with '" ++ first
      ++ "'; names are case-insensitive)"
  | emptyFunctionName => "Function name must not be empty"
  | brokenGetter message => message
  | call error => error.message
  | unknownObject name => Text.quoted name

end Stencil
