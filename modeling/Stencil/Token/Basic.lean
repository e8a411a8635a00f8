import Stencil.Position
import Stencil.Text.Quoted

/-! Tokens of the template language. -/

namespace Stencil

inductive TokenKind where
  | openHole
  | closeHole
  | openParen
  | closeParen
  | comma
  | pipe
  | string
  | number
  | identifier
  | text
  | lineBreak
  | endOfInput
deriving DecidableEq, Repr

/-- A token holds the characters it was read from and the place of the first of them. -/
structure Token where
  kind : TokenKind
  lexeme : String
  position : Position
deriving DecidableEq, Repr

/-- The name of a kind in token listings. -/
def TokenKind.label : TokenKind → String
  | openHole => "OPEN_CURLY"
  | closeHole => "CLOSE_CURLY"
  | openParen => "OPEN_PAREN"
  | closeParen => "CLOSE_PAREN"
  | comma => "COMMA"
  | pipe => "PIPE"
  | string => "STRING"
  | number => "NUMBER"
  | identifier => "IDENTIFIER"
  | text => "TEXT"
  | lineBreak => "LINE_BREAK"
  | endOfInput => "EOF"

/-- The name of a kind in error messages. -/
def TokenKind.description : TokenKind → String
  | openHole => "'\x7b'"
  | closeHole => "'\x7d'"
  | openParen => "'('"
  | closeParen => "')'"
  | comma => "','"
  | pipe => "'|'"
  | string => "string"
  | number => "number"
  | identifier => "identifier"
  | text => "text"
  | lineBreak => "line break"
  | endOfInput => "end of input"

/-- Kinds whose tokens differ in more than their place, so that messages show the lexeme. -/
def TokenKind.isVaried : TokenKind → Bool
  | string | number | identifier => true
  | _ => false

/-- A token of this kind can start an argument. -/
def TokenKind.startsArgument : TokenKind → Bool
  | string | number | identifier => true
  | _ => false

namespace Token

def description (token : Token) : String :=
  if token.kind.isVaried then token.kind.description ++ " '" ++ token.lexeme ++ "'"
  else token.kind.description

/-- The token in a listing. -/
def listing (token : Token) : String :=
  "Token(" ++ token.kind.label ++ ", " ++ Text.quoted token.lexeme ++ ", "
    ++ token.position.lineColumn ++ ")"

end Token

end Stencil
