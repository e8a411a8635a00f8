import Mathlib.Data.List.DropRight
import Stencil.Position

/-! The place behind a text, by counting: its offset is the length of the text, its line the number
of line feeds and its column the number of characters behind the last of them. Going on from there
character by character comes to the place behind the longer text. -/

namespace Stencil

/-- The characters behind the last line feed of a text. -/
def lastLine (text : List Char) : List Char := text.rtakeWhile fun c => c != '\n'

@[simp] theorem lastLine_nil : lastLine [] = [] := rfl

theorem lastLine_concat_lineFeed (text : List Char) : lastLine (text ++ ['\n']) = [] :=
  List.rtakeWhile_concat_neg _ _ _ (by decide)

theorem lastLine_concat {c : Char} (plain : c ≠ '\n') (text : List Char) :
    lastLine (text ++ [c]) = lastLine text ++ [c] :=
  List.rtakeWhile_concat_pos _ _ _ (by simpa using plain)

namespace Position

/-- The place behind a text, counted from the text alone. -/
def behind (text : List Char) : Position :=
  ⟨text.length, text.count '\n' + 1, (lastLine text).length + 1⟩

theorem start_eq_behind : start = behind [] := rfl

theorem isKnown_behind (text : List Char) : (behind text).isKnown = true := by
  have positive : (0 : Int) < (text.count '\n' : Int) + 1 := by omega
  exact decide_eq_true positive

theorem behind_advance (text : List Char) (c : Char) :
    (behind text).advance c = behind (text ++ [c]) := by
  by_cases broken : c = '\n'
  · subst broken
    simp [advance, behind, lastLine_concat_lineFeed]
  · simp [advance, behind, broken, lastLine_concat broken]

theorem behind_after (text more : List Char) : (behind text).after more = behind (text ++ more) := by
  induction more generalizing text with
  | nil => rw [List.append_nil, after_nil]
  | cons c rest ih =>
    calc (behind text).after (c :: rest)
        = ((behind text).advance c).after rest := after_cons _ c rest
      _ = (behind (text ++ [c])).after rest := by rw [behind_advance]
      _ = behind (text ++ [c] ++ rest) := ih (text ++ [c])
      _ = behind (text ++ c :: rest) := by rw [List.append_assoc, List.singleton_append]

/-- A place in a text that comes to stand behind another text. Only in the first line the columns
change, and a place in no text stays in none. -/
def past (front : List Char) (position : Position) : Position :=
  if position.isKnown then
    ⟨position.offset + front.length, position.line + front.count '\n',
      if position.line = 1 then position.column + (lastLine front).length else position.column⟩
  else position

theorem past_unknown (front : List Char) : unknown.past front = unknown := rfl

theorem isKnown_advance {position : Position} (known : position.isKnown = true) (c : Char) :
    (position.advance c).isKnown = true := by
  have positive : 0 < position.line := of_decide_eq_true known
  apply decide_eq_true
  unfold advance
  split
  · exact Int.add_pos positive Int.one_pos
  · exact positive

theorem past_of_isKnown {position : Position} (known : position.isKnown = true)
    (front : List Char) :
    position.past front = ⟨position.offset + front.length, position.line + front.count '\n',
      if position.line = 1 then position.column + (lastLine front).length
      else position.column⟩ :=
  if_pos known

theorem past_advance {position : Position} (known : position.isKnown = true) (front : List Char)
    (c : Char) : (position.advance c).past front = (position.past front).advance c := by
  have positive : 0 < position.line := of_decide_eq_true known
  rw [past_of_isKnown (isKnown_advance known c), past_of_isKnown known]
  by_cases broken : c = '\n'
  · have notFirst : position.line + 1 ≠ 1 := by omega
    simp only [advance, broken, if_true, notFirst, if_false, Position.mk.injEq, and_true]
    omega
  · simp only [advance, broken, if_false, Position.mk.injEq, true_and]
    constructor
    · omega
    · split <;> omega

theorem past_behind (front text : List Char) : (behind text).past front = behind (front ++ text) := by
  induction text using List.reverseRecOn with
  | nil => simp [behind, past, isKnown, Int.add_comm]
  | append_singleton text c ih =>
    calc (behind (text ++ [c])).past front
        = ((behind text).advance c).past front := by rw [behind_advance]
      _ = ((behind text).past front).advance c := past_advance (isKnown_behind text) front c
      _ = (behind (front ++ text)).advance c := by rw [ih]
      _ = behind (front ++ (text ++ [c])) := by rw [behind_advance, List.append_assoc]

end Position

end Stencil
