import Stencil.Position
import Stencil.Text.Lines

/-! The line of a text that a position points into, with a caret below the place. -/

namespace Stencil

/-- Nothing for an unknown position or one behind the last line. -/
def caretLine (text : String) (position : Position) : Option String :=
  if position.isKnown then
    ((Text.lines text.toList)[(position.line - 1).toNat]?).map fun line =>
      String.ofList (line ++ '\n' :: List.replicate (position.column - 1).toNat ' ' ++ ['^'])
  else none

end Stencil
