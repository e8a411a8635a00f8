import Stencil.Text.CaseTable

/-! Upper case, lower case and case folding of a text, with the full mappings: one character
may become several. Two names are the same regardless of case when they fold alike. -/

namespace Stencil.Text

def fold (text : String) : String := String.ofList (text.toList.flatMap folding.image)

def upper (text : String) : String := String.ofList (text.toList.flatMap uppercase.image)

/-- The next character that is not passed over has case. -/
def nextIsCased (text : List Char) : Bool :=
  match text.dropWhile caseIgnorable.contains with
  | [] => false
  | c :: _ => casedCharacters.contains c

/-- A capital sigma is final after a cased character and before none. The first argument holds
the characters already mapped, nearest first. -/
def lowerAfter (before : List Char) : List Char → List Char
  | [] => []
  | c :: rest =>
    let image :=
      if c = 'Σ' && nextIsCased before && !nextIsCased rest then ['ς'] else lowercase.image c
    image ++ lowerAfter (c :: before) rest

def lower (text : String) : String := String.ofList (lowerAfter [] text.toList)

end Stencil.Text
