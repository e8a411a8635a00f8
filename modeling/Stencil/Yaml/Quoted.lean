import Stencil.Yaml.Fault
import Stencil.Yaml.Folding
import Stencil.Yaml.Place

/-! Quoted scalars. They may run over several lines, none of which starts with a document mark. A
text that ends before its quote is cut. -/

namespace Stencil.Yaml

open Number

/-- The pieces of a text between single quotes, in which a quote is doubled. -/
def singleFrom (afterBreak : Bool) (mark : Mark) : List Char → Except Fault (List Piece × Place)
  | [] => .error .cut
  | '\'' :: '\'' :: rest => do
    let (pieces, after) ← singleFrom false ((mark.after '\'').after '\'') rest
    return (.kept '\'' :: pieces, after)
  | '\'' :: rest => .ok ([], ⟨mark.after '\'', rest⟩)
  | c :: rest =>
    if afterBreak && atDocumentMark (c :: rest) then .error .malformed
    else do
      let (pieces, after) ← singleFrom (isBreak c) (mark.after c) rest
      let piece : Piece :=
        if isBreak c then .lineEnd c else if isSpace c then .blank c else .kept c
      return (piece :: pieces, after)

/-- Characters that are escaped by a letter or by themselves. -/
def escapes : List (Char × Char) :=
  [('0', '\x00'), ('a', '\x07'), ('b', '\x08'), ('t', '\t'), ('\t', '\t'), ('n', '\n'),
    ('v', '\x0B'), ('f', '\x0C'), ('r', '\r'), ('e', '\x1B'), (' ', ' '), ('"', '"'),
    ('/', '/'), ('\\', '\\'), ('N', '\x85'), ('_', '\xA0'), ('L', '\u2028'), ('P', '\u2029')]

/-- How many hexadecimal digits follow the letter of an escape. -/
def escapeWidths : List (Char × Nat) := [('x', 2), ('u', 4), ('U', 8)]

/-- Where the reading of a text between double quotes stands. -/
inductive Escape where
  | outside
  /-- Behind a backslash. -/
  | letter
  /-- So many digits are still to come. -/
  | digits (missing code : Nat)

/-- The character with a code; none above the last character. Halves of surrogate pairs are no
characters: in the place of one stands a character of a plane that has none assigned. -/
def ofCode (code : Nat) : Option Char :=
  if 0xD800 ≤ code && code ≤ 0xDFFF then some (Char.ofNat (0xD0000 + code))
  else if code.isValidChar then some (Char.ofNat code)
  else none

/-- The pieces of a text between double quotes, in which a backslash escapes. -/
def doubleFrom (afterBreak : Bool) (mark : Mark) :
    Escape → List Char → Except Fault (List Piece × Place)
  | _, [] => .error .cut
  | .outside, c :: rest =>
    if afterBreak && atDocumentMark (c :: rest) then .error .malformed
    else if c = '"' then .ok ([], ⟨mark.after c, rest⟩)
    else if c = '\\' then doubleFrom false (mark.after c) .letter rest
    else do
      let (pieces, after) ← doubleFrom (isBreak c) (mark.after c) .outside rest
      let piece : Piece :=
        if isBreak c then .lineEnd c else if isSpace c then .blank c else .kept c
      return (piece :: pieces, after)
  | .letter, c :: rest =>
    if isBreak c then do
      let (pieces, after) ← doubleFrom true (mark.after c) .outside rest
      return (.joint :: pieces, after)
    else
      match escapes.lookup c, escapeWidths.lookup c with
      | some escaped, _ => do
        let (pieces, after) ← doubleFrom false (mark.after c) .outside rest
        return (.kept escaped :: pieces, after)
      | none, some width => doubleFrom false (mark.after c) (.digits width 0) rest
      | none, none => .error .malformed
  | .digits missing code, c :: rest =>
    if !isHexadecimal c then .error .malformed
    else
      let code := code * 16 + hexadecimalValue c
      if 1 < missing then doubleFrom false (mark.after c) (.digits (missing - 1) code) rest
      else
        match ofCode code with
        | none => .error (.noCharacter code)
        | some escaped => do
          let (pieces, after) ← doubleFrom false (mark.after c) .outside rest
          return (.kept escaped :: pieces, after)

/-- The text between the single quote at a place and the next one, and the place behind it. -/
def Place.singleQuoted (place : Place) : Except Fault (List Char × Place) := do
  let inner := place.drop 1
  let (pieces, after) ← singleFrom false inner.mark inner.rest
  return (fold pieces, after)

/-- The text between the double quote at a place and the next one, and the place behind it. -/
def Place.doubleQuoted (place : Place) : Except Fault (List Char × Place) := do
  let inner := place.drop 1
  let (pieces, after) ← doubleFrom false inner.mark .outside inner.rest
  return (fold pieces, after)

end Stencil.Yaml
