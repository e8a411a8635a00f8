import Stencil.CommandLine.Command
import Stencil.CommandLine.Files
import Stencil.CommandLine.Values
import Stencil.Function.Builtin
import Stencil.Node.Source

/-! Runs of the program: what it writes and how it ends, given its arguments and what it meets
outside. -/

namespace Stencil.CommandLine

/-- What a run meets besides its arguments: files by their normal names, the text on its standard
input, whether traces are asked for from outside, the loader of data files, and the words in which
standard output refuses a text that its encoding cannot write. -/
structure Surroundings where
  content : String → Content
  input : String
  debug : Bool
  load : List UInt8 → Loading
  refusal? : String → Option String

/-- How a run ends, with the lines that it wrote. -/
inductive Outcome where
  /-- By its arguments alone. -/
  | ended (ending : Ending)
  | finished (status : Nat) (output messages : List String)
  /-- Without an end of its own, which its last message stands for. -/
  | broken {output : List String} (cause : Breakage) (message : String)
deriving DecidableEq, Repr

/-- Ends a run that has written some lines already. -/
def refuse (template : String) (output traces : List String) (refusal : Refusal) : Outcome :=
  match refusal.breakage? with
  | some cause => @Outcome.broken output cause refusal.message
  | none => .finished refusal.status output (traces ++ refusal.lines template)

/-! ### What is read -/

/-- A file that must be there. -/
def readFile (seen : Surroundings) (name : String) (missing : String → Refusal) :
    Except Refusal (List UInt8) :=
  match seen.content (normalPath name) with
  | .missing => .error (missing (normalPath name))
  | .directory => .error (.directory (normalPath name))
  | .bytes bytes => .ok bytes

/-- A template on standard input or, behind an at sign, in a file; without its final line ends.
Any other text is the template itself. -/
def readTemplate (seen : Surroundings) (argument : String) : Except Refusal String :=
  match argument.toList with
  | ['-'] =>
    .ok (String.ofList (Text.dropFinalLineEnds (Text.unifyLineEnds seen.input.toList)))
  | '@' :: name => do
    let bytes ← readFile seen (String.ofList name) .templateMissing
    match fileText bytes with
    | .error error => .error (.encoding error)
    | .ok text => .ok (String.ofList (Text.dropFinalLineEnds text))
  | _ => .ok argument

/-- The values of a data file. No file, or an empty name, means no values. -/
def readData (seen : Surroundings) : Option String → Except Refusal NamedValues
  | none => .ok []
  | some name =>
    if name = "" then .ok []
    else do
      let bytes ← readFile seen name .dataMissing
      let mapping ← dataMapping (normalPath name) (seen.load bytes)
      nameKeys mapping

/-- The template of a job, and its values. -/
def Job.read (seen : Surroundings) (job : Job) : Except Refusal (String × NamedValues) := do
  let template ← readTemplate seen job.template
  let data ← readData seen job.data
  let values ← applySets data job.sets
  return (template, values)

def Job.evaluator (job : Job) : Evaluator := ⟨.builtin, job.options⟩

/-! ### Traces -/

def parsedTrace (template : Template) : String :=
  "[DEBUG] Parsed template with " ++ naturalText template.lines.length ++ " line(s)"

/-- A call that failed leaves a trace. -/
def callTraces : Failure → List String
  | .template (.evaluation (.failedCall function cause) _) =>
    ["[DEBUG] Function '" ++ function ++ "' failed: " ++ cause.kind ++ "(" ++
      Text.quoted cause.message ++ ")"]
  | _ => []

/-- The traces of rendering a text. -/
def renderTraces (self : Evaluator) (text : String) (values : Mapping) : List String :=
  match parse text with
  | .error _ => []
  | .ok template =>
    parsedTrace template ::
      match Source.ofMapping values with
      | .error _ => []
      | .ok source =>
        match (self.render template source).failure with
        | none => []
        | some failure => callTraces failure

/-! ### What is written -/

/-- The lines in front of the first that standard output refuses, and its words. Each line is
written as a whole or not at all. -/
def Surroundings.write (seen : Surroundings) : List String → List String × Option String
  | [] => ([], none)
  | line :: rest =>
    match seen.refusal? (line ++ "\n") with
    | some message => ([], some message)
    | none =>
      let (written, refused) := seen.write rest
      (line :: written, refused)

/-- Ends a run as told once its lines are written. A line that is refused ends it before. -/
def afterWriting (seen : Surroundings) (lines traces : List String) (ending : Outcome) : Outcome :=
  match seen.write lines with
  | (written, some message) => refuse "" written traces (.unwritten message)
  | (_, none) => ending

/-! ### What is done -/

def parseTraces (debug : Bool) (template : Template) : List String :=
  if debug then [parsedTrace template] else []

def checkTemplate (seen : Surroundings) (debug : Bool) (text : String) : Outcome :=
  match parse text with
  | .error failure => refuse text [] [] (.failure failure)
  | .ok template =>
    let traces := parseTraces debug template
    afterWriting seen [template.source] traces (.finished 0 [template.source] traces)

/-- How rendering ends once its lines are written. -/
def renderingEnd (debug : Bool) (text : String) (traces : List String) (rendering : Rendering) :
    Outcome :=
  match rendering.failure with
  | none => .finished 0 rendering.lines traces
  | some failure =>
    refuse text rendering.lines (traces ++ if debug then callTraces failure else [])
      (.failure failure)

/-- The lines of a template up to the first that fails, each written before the next is made. -/
def renderTemplate (seen : Surroundings) (self : Evaluator) (debug : Bool) (text : String)
    (values : Mapping) : Outcome :=
  match parse text with
  | .error failure => refuse text [] [] (.failure failure)
  | .ok template =>
    let traces := parseTraces debug template
    match Source.ofMapping values with
    | .error failure => refuse text [] traces (.failure failure)
    | .ok source =>
      let rendering := self.render template source
      afterWriting seen rendering.lines traces (renderingEnd debug text traces rendering)

def reportStatus : Report → Nat
  | .success _ => 0
  | .failure error => templateStatus error.stage

/-- The report on a template, as a document on one line. -/
def reportTemplate (seen : Surroundings) (self : Evaluator) (debug : Bool) (text : String)
    (values : Mapping) : Outcome :=
  let traces := if debug then renderTraces self text values else []
  match buildReport self text (.mapping values) with
  | .error failure => refuse text [] traces (.failure failure)
  | .ok report =>
    let document := report.json.written
    afterWriting seen [document] traces (.finished (reportStatus report) [document] traces)

def functionList : Json := .record [("functions", .ofTexts Registry.builtin.names)]

def Request.run (seen : Surroundings) (request : Request) : Outcome :=
  let debug := request.debug || seen.debug
  match request.command with
  | .functions =>
    afterWriting seen [functionList.written] [] (.finished 0 [functionList.written] [])
  | .check argument =>
    match readTemplate seen argument with
    | .error refusal => refuse "" [] [] refusal
    | .ok text => checkTemplate seen debug text
  | .render job =>
    match job.read seen with
    | .error refusal => refuse "" [] [] refusal
    | .ok (text, values) => renderTemplate seen job.evaluator debug text values.mapping
  | .report job =>
    match job.read seen with
    | .error refusal => refuse "" [] [] refusal
    | .ok (text, values) => reportTemplate seen job.evaluator debug text values.mapping

def run (seen : Surroundings) (arguments : List String) : Outcome :=
  match Request.read arguments with
  | .error ending => .ended ending
  | .ok request => request.run seen

/-! ### What is seen of a run -/

def versionLine : String := "hafr 1.0.0"

def usage : List String :=
  ["usage: hafr [-h] [-v] [--debug] COMMAND ...",
    "  render TEMPLATE [--data FILE] [--set NAME=VALUE]... [--null-text TEXT]",
    "         [--empty-text TEXT] [--separator TEXT]",
    "  report TEMPLATE, with the same options",
    "  check TEMPLATE",
    "  list functions",
    "TEMPLATE is a text, @FILE or - for standard input."]

/-- Lines as they are written. -/
def unlines (lines : List String) : String := String.join (lines.map (· ++ "\n"))

namespace Outcome

def status : Outcome → Nat
  | ended .misuse => 2
  | ended _ => 0
  | finished status _ _ => status
  | broken _ _ => 1

def output : Outcome → String
  | ended .help => unlines usage
  | ended .version => unlines [versionLine]
  | ended .misuse => ""
  | finished _ output _ => unlines output
  | @broken output _ _ => unlines output

def messages : Outcome → String
  | ended .misuse => unlines usage
  | ended _ => ""
  | finished _ _ messages => unlines messages
  | broken _ message => unlines [message]

end Outcome

end Stencil.CommandLine
