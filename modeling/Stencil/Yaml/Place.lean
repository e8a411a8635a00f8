import Stencil.Yaml.Character

/-! Places in a document. -/

namespace Stencil.Yaml

/-- How far a place is from the start of its document, and of its line. -/
structure Mark where
  offset : Nat
  line : Nat
  column : Nat
deriving DecidableEq, Repr

def Mark.start : Mark := ⟨0, 0, 0⟩

/-- Behind a character. Of the characters that end a line of text, only the line feed starts a
new line of the document; a byte order mark takes no column. -/
def Mark.after (mark : Mark) (c : Char) : Mark :=
  if c = '\n' then ⟨mark.offset + 1, mark.line + 1, 0⟩
  else if c = '\uFEFF' then { mark with offset := mark.offset + 1 }
  else ⟨mark.offset + 1, mark.line, mark.column + 1⟩

/-- A place, and the text that is still to be read there. -/
structure Place where
  mark : Mark
  rest : List Char

namespace Place

/-- The start of a text, behind a byte order mark if there is one. -/
def start : List Char → Place
  | '\uFEFF' :: rest => ⟨Mark.start.after '\uFEFF', rest⟩
  | text => ⟨.start, text⟩

/-- Behind so many characters. -/
def drop (place : Place) (count : Nat) : Place :=
  ⟨(place.rest.take count).foldl Mark.after place.mark, place.rest.drop count⟩

def column (place : Place) : Nat := place.mark.column

end Place

/-- Skips white space and comments, and says whether a line end was among it. Tabs are white
space between brackets only. -/
def skipFrom (inFlow inComment passed : Bool) (mark : Mark) : List Char → Place × Bool
  | [] => (⟨mark, []⟩, passed)
  | c :: rest =>
    if isBreak c then skipFrom inFlow false true (mark.after c) rest
    else if inComment || c = ' ' || (inFlow && c = '\t') then
      skipFrom inFlow inComment passed (mark.after c) rest
    else if c = '#' then skipFrom inFlow true passed (mark.after c) rest
    else (⟨mark, c :: rest⟩, passed)

def Place.skip (place : Place) (inFlow : Bool) : Place × Bool :=
  skipFrom inFlow false false place.mark place.rest

end Stencil.Yaml
