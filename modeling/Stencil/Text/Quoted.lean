import Stencil.Text.Printable

/-! Text in quotes, as lists and error messages show it. The quotes are single unless the text
holds a single quote and no double one; the quote in use, the backslash and whatever cannot be
printed are escaped. -/

namespace Stencil.Text

/-- The lower-case hexadecimal digits of a number, filled with zeros up to a width. -/
def hexadecimal (width code : Nat) : List Char :=
  let digits := Nat.toDigits 16 code
  List.replicate (width - digits.length) '0' ++ digits

/-- A character as it stands between two of the given quotes. -/
def escaped (quote c : Char) : List Char :=
  if c = quote || c = '\\' then ['\\', c]
  else if c = '\n' then ['\\', 'n']
  else if c = '\r' then ['\\', 'r']
  else if c = '\t' then ['\\', 't']
  else if isPrintable c then [c]
  else if c.toNat < 0x100 then '\\' :: 'x' :: hexadecimal 2 c.toNat
  else if c.toNat < 0x10000 then '\\' :: 'u' :: hexadecimal 4 c.toNat
  else '\\' :: 'U' :: hexadecimal 8 c.toNat

def quoteFor (text : List Char) : Char :=
  if text.contains '\'' && !text.contains '"' then '"' else '\''

def quotedCharacters (text : List Char) : List Char :=
  let quote := quoteFor text
  quote :: text.flatMap (escaped quote) ++ [quote]

def quoted (text : String) : String := String.ofList (quotedCharacters text.toList)

end Stencil.Text
