import Stencil.Text.CharSet

/-! White space: which characters are blank, and removal of blanks around a text. -/

namespace Stencil.Text

/-- The 29 blank characters: the Unicode white space and the separators U+001C to U+001F. -/
def blankCharacters : CharSet := ⟨[
    (0x9, 0xD), (0x1C, 0x20), (0x85, 0x85), (0xA0, 0xA0), (0x1680, 0x1680), (0x2000, 0x200A),
    (0x2028, 0x2029), (0x202F, 0x202F), (0x205F, 0x205F), (0x3000, 0x3000)]⟩

def isBlank (c : Char) : Bool := blankCharacters.contains c

/-- A blank other than the two characters that make line breaks. -/
def isInlineBlank (c : Char) : Bool := isBlank c && c != '\r' && c != '\n'

def dropBlanks (text : List Char) : List Char := text.dropWhile isBlank

/-- The text without the blanks at its two ends. -/
def trimmed (text : List Char) : List Char := (dropBlanks (dropBlanks text).reverse).reverse

/-- The text without the blanks at its end. -/
def trimEnd (text : String) : String := String.ofList (dropBlanks text.toList.reverse).reverse

def trim (text : String) : String := String.ofList (trimmed text.toList)

end Stencil.Text
