import Stencil.Literal
import Stencil.Node.Basic
import Stencil.Value.Written

/-! Template text of nodes. Holes are written without blanks but for one around a pipe and one
after a comma. -/

namespace Stencil

/-- A string is written as a literal, any other constant in its display form. -/
def constantSource : Value → String
  | .text value => Literal.encode value
  | value => value.display

def callSource (name : String) (arguments : List String) : String :=
  name ++ "(" ++ listed arguments ++ ")"

def holeSource (expression : String) : String := "\x7b" ++ expression ++ "\x7d"

namespace Node

mutual

def source : Node → String
  | text value _ => value
  | constant value _ => constantSource value
  | property name _ => name
  | call name arguments _ => callSource name (sources arguments)
  | pipe left right _ => left.source ++ " | " ++ right.source
  | line parts _ => String.join (partSources parts)
  | template lines => "\n".intercalate (sources lines)
  | bare => "Expression()"

def sources : List Node → List String
  | [] => []
  | node :: rest => node.source :: sources rest

/-- Text stands for itself, everything else in a hole. -/
def partSources : List Node → List String
  | [] => []
  | text value _ :: rest => value :: partSources rest
  | node :: rest => holeSource node.source :: partSources rest

end

end Node

def Line.source (line : Line) : String := line.toNode.source

def Template.source (template : Template) : String := template.toNode.source

end Stencil
