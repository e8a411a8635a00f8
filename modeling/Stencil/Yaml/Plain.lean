import Stencil.Yaml.Folding
import Stencil.Yaml.Place

/-! Plain scalars, which end with the text, at a comment, a colon that ends a key or a tab, and
between brackets also at each mark of those. -/

namespace Stencil.Yaml

/-- At a colon that ends a key. -/
def atColon : List Char → Bool
  | ':' :: rest => atGap rest
  | _ => false

/-- The pieces of a plain scalar from here on, and the place behind its last character. White
space belongs to the scalar only if more of it follows: behind a line end, that is not a document
mark and, outside of brackets, stands in the column `least` or to its right. -/
def plainFrom (inFlow : Bool) (least : Nat) (afterGap afterBreak : Bool) (mark : Mark) :
    List Char → List Piece × Place
  | [] => ([], ⟨mark, []⟩)
  | c :: rest =>
    let here : List Piece × Place := ([], ⟨mark, c :: rest⟩)
    if afterBreak && atDocumentMark (c :: rest) then here
    else if isBreak c then
      match plainFrom inFlow least true true (mark.after c) rest with
      | ([], _) => here
      | (pieces, after) => (.lineEnd c :: pieces, after)
    else if c = ' ' then
      match plainFrom inFlow least true false (mark.after c) rest with
      | ([], _) => here
      | (pieces, after) => (.blank c :: pieces, after)
    else if c = '\t' || (afterGap && (c = '#' || (!inFlow && mark.column < least))) ||
        atColon (c :: rest) || (inFlow && isFlowMark c) then
      here
    else
      let (pieces, after) := plainFrom inFlow least false false (mark.after c) rest
      (.kept c :: pieces, after)

/-- Skips the white space behind a plain scalar, up to a document mark, and says whether a line
end was among it. -/
def skipBehind (afterBreak : Bool) (mark : Mark) : List Char → Place × Bool
  | [] => (⟨mark, []⟩, afterBreak)
  | c :: rest =>
    if isBreak c then
      if atDocumentMark rest then (⟨mark.after c, rest⟩, true)
      else skipBehind true (mark.after c) rest
    else if c = ' ' then skipBehind afterBreak (mark.after c) rest
    else (⟨mark, c :: rest⟩, afterBreak)

/-- The text of a plain scalar, the place behind it and the white space there, and whether a line
end is among that. -/
def Place.plain (place : Place) (inFlow : Bool) (least : Nat) : List Char × Place × Bool :=
  let (pieces, after) := plainFrom inFlow least false false place.mark place.rest
  (fold pieces, skipBehind false after.mark after.rest)

end Stencil.Yaml
