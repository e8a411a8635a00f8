import Stencil.CommandLine.Word
import Stencil.Evaluate

/-! The commands, and how the words of a command line ask for them. -/

namespace Stencil.CommandLine

/-- What a template is rendered with. -/
structure Job where
  template : String
  data : Option String
  sets : List String
  options : Options
deriving DecidableEq, Repr

inductive Command where
  /-- Names the functions. -/
  | functions
  /-- Parses a template only. -/
  | check (template : String)
  | render (job : Job)
  | report (job : Job)
deriving DecidableEq, Repr

/-- A command, with traces of what is done or without. -/
structure Request where
  debug : Bool
  command : Command
deriving DecidableEq, Repr

/-- What ends the program before a command starts. -/
inductive Ending where
  | help
  | version
  | misuse
deriving DecidableEq, Repr

/-- All that words say, in order. -/
structure Findings where
  debug : Bool
  settings : List (Setting × Option String)
  operand : Option String
  surplus : Bool

def Findings.none : Findings := ⟨false, [], .none, false⟩

/-- Takes in what words say. The first of the occurrences that end the program does so. -/
def Findings.of (accepts : String → Bool) : List Occurrence → Except Ending Findings
  | [] => .ok .none
  | .misuse :: _ => .error .misuse
  | .flag .help :: _ => .error .help
  | .flag .version :: _ => .error .version
  | .flag .debug :: rest => do
    let findings ← Findings.of accepts rest
    return { findings with debug := true }
  | .setting setting value :: rest => do
    let findings ← Findings.of accepts rest
    return { findings with settings := (setting, value) :: findings.settings }
  | .operand text :: rest =>
    if accepts text then do
      let findings ← Findings.of accepts rest
      return { findings with operand := some text }
    else .error .misuse
  | .surplus :: rest => do
    let findings ← Findings.of accepts rest
    return { findings with surplus := true }

/-- The values of a setting, in order. -/
def Findings.all (findings : Findings) (setting : Setting) : List (Option String) :=
  findings.settings.filterMap fun found => if found.1 = setting then some found.2 else .none

/-- The value of a setting. The last one counts. -/
def Findings.last (findings : Findings) (setting : Setting) : Option (Option String) :=
  (findings.all setting).getLast?

def Findings.options (findings : Findings) : Options :=
  let standard : Options := {}
  ⟨(findings.last .nullText).getD standard.nullText,
    (findings.last .emptyText).getD standard.emptyText,
    (findings.last .separator).getD standard.separator⟩

/-- What is set to nothing has the form of an empty list. -/
def setText (value : Option String) : String := value.getD "[]"

def Findings.job (findings : Findings) (template : String) : Job :=
  ⟨template, (findings.last .data).join, (findings.all .set).map setText, findings.options⟩

def plainOptions : List OptionName := [.flag .help]

def jobOptions : List OptionName :=
  [.flag .help, .setting .data, .setting .set, .setting .nullText, .setting .emptyText,
    .setting .separator]

def mainOptions : List OptionName := [.flag .help, .flag .version, .flag .debug]

/-- Reads the words behind the name of a command, which must have its operand. -/
def readOperand (options : List OptionName) (accepts : String → Bool) (arguments : List String) :
    Except Ending (Findings × String) :=
  match readWords options arguments with
  | none => .error .misuse
  | some words => do
    let findings ← Findings.of accepts (occurrences options true words)
    match findings.operand with
    | none => .error .misuse
    | some operand => if findings.surplus then .error .misuse else .ok (findings, operand)

def readCommand (name : String) (arguments : List String) : Except Ending Command :=
  match name with
  | "list" => do
    let _ ← readOperand plainOptions (· == "functions") arguments
    return .functions
  | "check" => do
    let (_, template) ← readOperand plainOptions (fun _ => true) arguments
    return .check template
  | "render" => do
    let (findings, template) ← readOperand jobOptions (fun _ => true) arguments
    return .render (findings.job template)
  | "report" => do
    let (findings, template) ← readOperand jobOptions (fun _ => true) arguments
    return .report (findings.job template)
  | _ => .error .misuse

def Word.isOption : Word → Bool
  | operand _ => false
  | divider => false
  | _ => true

/-- Reads a command line: options, then the name of a command and its own words. -/
def Request.read (arguments : List String) : Except Ending Request :=
  match readWords mainOptions arguments with
  | none => .error .misuse
  | some words => do
    let front := words.takeWhile Word.isOption
    let findings ← Findings.of (fun _ => true) (occurrences mainOptions false front)
    match arguments.drop front.length with
    | [] => .error .misuse
    | name :: rest =>
      let command ← readCommand name rest
      if findings.surplus then .error .misuse else .ok ⟨findings.debug, command⟩

end Stencil.CommandLine
