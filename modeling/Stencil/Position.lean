import Stencil.Number.Digits

/-! Places in a template text. Lines and columns count from one, offsets from zero, and only a
line feed starts a new line. -/

namespace Stencil

structure Position where
  offset : Int
  line : Int
  column : Int
deriving DecidableEq, Repr

namespace Position

/-- The place of what was not read from a text. -/
def unknown : Position := ⟨0, 0, 0⟩

def start : Position := ⟨0, 1, 1⟩

def isKnown (position : Position) : Bool := 0 < position.line

/-- The place behind one character. -/
def advance (position : Position) (c : Char) : Position :=
  if c = '\n' then ⟨position.offset + 1, position.line + 1, 1⟩
  else ⟨position.offset + 1, position.line, position.column + 1⟩

/-- The place behind a text. -/
def after (position : Position) (text : List Char) : Position := text.foldl advance position

/-- The places behind each character of a text, one after the other. -/
def trail (position : Position) : List Char → List Position
  | [] => []
  | c :: rest => position.advance c :: trail (position.advance c) rest

def number (value : Int) : String := String.ofList (Number.integerText value)

/-- Line and column with a colon between them. -/
def lineColumn (position : Position) : String :=
  number position.line ++ ":" ++ number position.column

def text (position : Position) : String :=
  if position.isKnown then position.lineColumn else "(empty)"

theorem after_nil (position : Position) : position.after [] = position := rfl

theorem after_cons (position : Position) (c : Char) (rest : List Char) :
    position.after (c :: rest) = (position.advance c).after rest := rfl

theorem after_append (position : Position) (first second : List Char) :
    position.after (first ++ second) = (position.after first).after second := by
  simp [after]

theorem advance_offset (position : Position) (c : Char) :
    (position.advance c).offset = position.offset + 1 := by
  unfold advance
  split <;> rfl

theorem after_offset (position : Position) (text : List Char) :
    (position.after text).offset = position.offset + text.length := by
  induction text generalizing position with
  | nil => simp [after]
  | cons c rest ih =>
    rw [after_cons, ih, advance_offset, List.length_cons]
    omega

end Position

end Stencil
