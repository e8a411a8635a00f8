/-! Folding: the text of a scalar that runs over several lines. Blanks around a line end vanish;
a single line end becomes a blank, and of several ones all but the first are kept. The line and
the paragraph separator are kept wherever they stand. -/

namespace Stencil.Yaml

/-- A scalar as it is read, piece by piece. -/
inductive Piece where
  /-- A character that is kept, whatever it is. -/
  | kept (c : Char)
  | blank (c : Char)
  /-- A character that ends a line. -/
  | lineEnd (c : Char)
  /-- An escaped line end, which joins two lines. -/
  | joint
deriving DecidableEq, Repr

/-- What is kept of a line end: the next-line character becomes a line feed. -/
def keptLineEnd (c : Char) : Char := if c = '\x85' then '\n' else c

/-- White space between two kept characters. -/
inductive Gap where
  /-- Blanks within a line, the last one first. -/
  | blanks (characters : List Char)
  /-- The first line end, and those behind it, the last one first. -/
  | broken (first : Char) (more : List Char)
  /-- Line ends behind an escaped one, the last one first. -/
  | joined (more : List Char)

def Gap.none : Gap := .blanks []

def Gap.addBlank (c : Char) : Gap → Gap
  | blanks characters => blanks (c :: characters)
  | gap => gap

def Gap.addLineEnd (c : Char) : Gap → Gap
  | blanks _ => broken (keptLineEnd c) []
  | broken first more => broken first (keptLineEnd c :: more)
  | joined more => joined (keptLineEnd c :: more)

/-- What is left of the white space. -/
def Gap.text : Gap → List Char
  | blanks characters => characters.reverse
  | broken first more =>
    if first ≠ '\n' then first :: more.reverse
    else if more.isEmpty then [' ']
    else more.reverse
  | joined more => more.reverse

/-- The text of pieces that follow a gap. -/
def foldFrom : Gap → List Piece → List Char
  | gap, [] => gap.text
  | gap, .kept c :: rest => gap.text ++ c :: foldFrom .none rest
  | gap, .blank c :: rest => foldFrom (gap.addBlank c) rest
  | gap, .lineEnd c :: rest => foldFrom (gap.addLineEnd c) rest
  | gap, .joint :: rest => gap.text ++ foldFrom (.joined []) rest

def fold (pieces : List Piece) : List Char := foldFrom .none pieces

end Stencil.Yaml
