/-! Classes of characters in documents. -/

namespace Stencil.Yaml

/-- Characters that end a line of text: the line feed, and those that stand for one. -/
def isBreak (c : Char) : Bool := c = '\n' || c = '\x85' || c = '\u2028' || c = '\u2029'

def isSpace (c : Char) : Bool := c = ' ' || c = '\t'

/-- At a blank, a line end or the end of the text. -/
def atGap : List Char → Bool
  | [] => true
  | c :: _ => isSpace c || isBreak c

/-- At three hyphens or points on their own. -/
def atDocumentMark : List Char → Bool
  | '-' :: '-' :: '-' :: rest => atGap rest
  | '.' :: '.' :: '.' :: rest => atGap rest
  | _ => false

/-- Characters that a document may hold. -/
def isAllowed (c : Char) : Bool :=
  c = '\t' || c = '\n' || c = '\x85' || (' ' ≤ c && c ≤ '~') ||
    ('\xA0' ≤ c && c != '\uFFFE' && c != '\uFFFF')

/-- Marks that stand on their own between brackets. -/
def isFlowMark (c : Char) : Bool := c = ',' || c = '[' || c = ']' || c = '\x7b' || c = '\x7d'

/-- Marks that start no plain scalar. -/
def isIndicator (c : Char) : Bool :=
  isFlowMark c || c = '#' || c = '&' || c = '*' || c = '!' || c = '|' || c = '>' || c = '\'' ||
    c = '"' || c = '%' || c = '@' || c = '\x60'

/-- A hyphen, colon or question mark starts a plain scalar if a character follows it directly. -/
def startsPlain : List Char → Bool
  | [] => false
  | c :: rest =>
    if c = '-' || c = ':' || c = '?' then !atGap rest
    else !isIndicator c && !isSpace c && !isBreak c

end Stencil.Yaml
