import Stencil.Data
import Stencil.Evaluate
import Stencil.Json
import Stencil.Node.Parse

/-! Rendering in one go, and reports that describe the outcome as data. -/

namespace Stencil

/-- Parses a text and renders all lines. -/
def renderText (self : Evaluator) (text : String) (data : Data) : Except Failure (List String) := do
  let template ← parse text
  let source ← data.adapt
  (self.render template source).complete

/-- Where a template error came up. -/
inductive Stage where
  | parse
  | evaluate
deriving DecidableEq, Repr

def Stage.name : Stage → String
  | parse => "parse"
  | evaluate => "evaluate"

structure ErrorReport where
  stage : Stage
  kind : String
  message : String
  position : Option Position

/-- The lines, or the template error that prevented them. -/
inductive Report where
  | success (lines : List String)
  | failure (error : ErrorReport)

def TemplateError.report (error : TemplateError) : ErrorReport where
  stage := if error.isSyntactic then .parse else .evaluate
  kind := error.kind
  message := error.message
  position := if error.position.isKnown then some error.position else none

/-- Failures other than template errors are not reported but passed on. -/
def Report.ofOutcome : Except Failure (List String) → Except Failure Report
  | .ok lines => .ok (.success lines)
  | .error (.template error) => .ok (.failure error.report)
  | .error other => .error other

/-- Parses and renders a text as a report. -/
def buildReport (self : Evaluator) (text : String) (data : Data) : Except Failure Report :=
  Report.ofOutcome do
    let template ← parse text
    let source ← data.reported
    (self.render template source).complete

/-! ### Reports as documents -/

def Position.json (position : Position) : Json :=
  .record [("offset", .integer position.offset), ("line", .integer position.line),
    ("column", .integer position.column)]

def ErrorReport.json (error : ErrorReport) : Json :=
  .record [("stage", .text error.stage.name), ("kind", .text error.kind),
    ("message", .text error.message),
    ("position", match error.position with | none => .null | some position => position.json)]

def Report.json : Report → Json
  | success lines => .record [("ok", .flag true), ("lines", .ofTexts lines), ("error", .null)]
  | failure error => .record [("ok", .flag false), ("lines", .list []), ("error", error.json)]

end Stencil
