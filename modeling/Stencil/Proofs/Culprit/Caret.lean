import Stencil.Caret
import Stencil.Proofs.Text.Line

/-! The caret below a place. It stands below the character at the place, or behind the line where the
line ends there. -/

namespace Stencil

open Text

/-- Behind as many characters of a text there is a place in one of its lines, and the line is shown
with a caret below the place. -/
def IsCaretLine (text : List Char) (offset : Nat) (shown : String) : Prop :=
  ∃ front line, IsLineAt text front line ∧ front.length ≤ offset ∧
    offset ≤ front.length + line.length ∧
    shown = String.ofList (line ++ '\n' :: List.replicate (offset - front.length) ' ' ++ ['^'])

/-- Places count line feeds and lines of a text take carriage returns along, so the place must not be
inside a line end. -/
theorem caretLine_behind {text : String} {before after : List Char}
    (cut : text.toList = before ++ after) (apart : ¬Fuses before after) :
    ∃ shown, caretLine text (.behind before) = some shown ∧
      IsCaretLine text.toList before.length shown := by
  obtain ⟨line, more, first, begins⟩ := exists_lines_cons after
  obtain ⟨front, split, whole⟩ := isLineAt_append apart begins
  have lengths := congrArg List.length split
  rw [List.length_append] at lengths
  have found := lines_getElem_count apart first
  refine ⟨_, ?_, front, lastLine before ++ line, cut ▸ whole, by omega, ?_, rfl⟩
  · have row : ((Position.behind before).line - 1).toNat = before.count '\n' := by
      simp [Position.behind]
    have column : ((Position.behind before).column - 1).toNat = before.length - front.length := by
      simp only [Position.behind]
      omega
    rw [caretLine, if_pos (Position.isKnown_behind before), cut, row, column, found]
    rfl
  · rw [List.length_append]
    omega

end Stencil
