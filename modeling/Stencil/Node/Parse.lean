import Stencil.Node.Source
import Stencil.Token.Scan

/-! Parsing by recursive descent over a stream that reads tokens only when they are looked at.

    template  →  line (lineBreak line)* endOfInput
    line      →  (hole | text)*
    hole      →  "{" chain "}"
    chain     →  argument ("|" argument)*
    argument  →  number | string | call | property
    call      →  identifier "(" (argument ("," argument)*)? ")"
    property  →  identifier

A line without parts becomes a line of one empty text. A text that has no tokens somewhere is
refused for that reason, even where the grammar is violated before. -/

namespace Stencil

/-- Tokens looked at but not yet taken, in front of those still to be read. -/
structure TokenStream where
  buffer : List Token
  scanner : Scanner

/-- A step of the parser takes tokens from the stream, or fails and leaves the stream as it then
is. -/
abbrev Parser := EStateM Failure TokenStream

namespace TokenStream

def ofText (text : String) : TokenStream := ⟨[], .ofText text.toList⟩

/-- The stream of tokens that have all been read. -/
def ofTokens (tokens : List Token) : TokenStream := ⟨tokens, .finished⟩

end TokenStream

namespace Parser

/-- Reads one token into the buffer. -/
def pull : Parser Unit := fun stream =>
  match stream.scanner.pull with
  | .token token next => .ok () ⟨stream.buffer ++ [token], next⟩
  | .failed failure => .error failure stream
  | .exhausted => .error .noMoreTokens stream

/-- Reads a number of tokens into the buffer. -/
def fill : Nat → Parser Unit
  | 0 => pure ()
  | count + 1 => do
    pull
    fill count

/-- The token at a distance from the next one, which stays where it is. -/
def peek (distance : Nat) : Parser Token := do
  fill (distance + 1 - (← get).buffer.length)
  match (← get).buffer[distance]? with
  | some token => return token
  | none => throw .noMoreTokens

/-- Takes the next token; the end of the input stays. -/
def advance : Parser Token := do
  let token ← peek 0
  if token.kind ≠ .endOfInput then
    modify fun stream => { stream with buffer := stream.buffer.drop 1 }
  return token

def unexpected {α : Type} (found : Token) (expected : Expectation) : Parser α :=
  throw (.template (.grammar found expected))

def expect (kind : TokenKind) (expected : Expectation) : Parser Token := do
  let current ← peek 0
  if current.kind = kind then advance else unexpected current expected

/-- Takes the next token if it is of the given kind. -/
def accepts (kind : TokenKind) : Parser Bool := do
  let current ← peek 0
  if current.kind = kind then
    let _ ← advance
    return true
  else
    return false

/-! The first argument of the following functions bounds the depth of their recursion. One more
than there are tokens is enough. -/

mutual

def argument : Nat → Parser Node
  | 0 => throw .noMoreTokens
  | depth + 1 => do
    let current ← peek 0
    match current.kind with
    | .number =>
      let _ ← advance
      return .constant (.integer (Number.ofDigits current.lexeme.toList)) current.position
    | .string =>
      let _ ← advance
      return .constant (.text (Literal.decode current.lexeme)) current.position
    | .identifier =>
      let following ← peek 1
      if following.kind = .openParen then
        call depth
      else
        let _ ← advance
        return .property current.lexeme current.position
    | _ => unexpected current .argument

def call : Nat → Parser Node
  | 0 => throw .noMoreTokens
  | depth + 1 => do
    let name ← expect .identifier .identifier
    let _ ← expect .openParen .openParen
    let current ← peek 0
    if current.kind.startsArgument then
      let first ← argument depth
      let others ← moreArguments depth
      let _ ← expect .closeParen .commaOrCloseParen
      return .call name.lexeme (first :: others) name.position
    else
      let _ ← expect .closeParen .argumentOrCloseParen
      return .call name.lexeme [] name.position

def moreArguments : Nat → Parser (List Node)
  | 0 => throw .noMoreTokens
  | depth + 1 => do
    if ← accepts .comma then
      let next ← argument depth
      let others ← moreArguments depth
      return next :: others
    else
      return []

end

/-- The pipes after an expression, which bind to the left. -/
def pipes : Nat → Node → Parser Node
  | 0, _ => throw .noMoreTokens
  | depth + 1, left => do
    let current ← peek 0
    if current.kind = .pipe then
      let mark ← advance
      let right ← argument depth
      pipes depth (.pipe left right mark.position)
    else
      return left

def chain (depth : Nat) : Parser Node := do
  let first ← argument depth
  pipes depth first

def hole (depth : Nat) : Parser Node := do
  let _ ← expect .openHole .openHole
  let expression ← chain depth
  let _ ← expect .closeHole .pipeOrCloseHole
  return expression

/-- The texts and holes up to the end of the line. -/
def parts : Nat → Parser (List Node)
  | 0 => throw .noMoreTokens
  | depth + 1 => do
    let current ← peek 0
    match current.kind with
    | .text =>
      let _ ← advance
      let others ← parts depth
      return .text current.lexeme current.position :: others
    | .openHole =>
      let first ← hole depth
      let others ← parts depth
      return first :: others
    | _ => return []

/-- A line without parts holds one empty text. -/
def lineOf (start : Position) : List Node → Line
  | [] => ⟨[.text "" start], start⟩
  | parts => ⟨parts, start⟩

def line (depth : Nat) : Parser Line := do
  let first ← peek 0
  let found ← parts depth
  return lineOf first.position found

def moreLines : Nat → Parser (List Line)
  | 0 => throw .noMoreTokens
  | depth + 1 => do
    if ← accepts .lineBreak then
      let next ← line depth
      let others ← moreLines depth
      return next :: others
    else
      return []

def template (depth : Nat) : Parser Template := do
  let first ← line depth
  let others ← moreLines depth
  let _ ← expect .endOfInput .lineBreakOrEnd
  return ⟨first :: others⟩

/-- Reads the tokens that are left, to see whether that fails. A violation of the grammar is
reported only if it does not. -/
def settle (failure : Failure) (stream : TokenStream) : Failure :=
  match failure with
  | .template (.grammar ..) => stream.scanner.scan.failure.getD failure
  | other => other

def outcome (depth : Nat) (stream : TokenStream) : Except Failure Template :=
  match (template depth).run stream with
  | .ok template _ => .ok template
  | .error failure rest => .error (settle failure rest)

end Parser

/-- The tree of a template text. A text has at most one token more than characters. -/
def parse (text : String) : Except Failure Template :=
  Parser.outcome (text.toList.length + 2) (.ofText text)

/-- A parse with its failure as a value: the tree, or the message and the place of what is wrong
with the text. -/
inductive ParseResult where
  | success (template : Template)
  | failure (message : String) (position : Position)

/-- Only failures that are the fault of the text become values. -/
def ParseResult.ofOutcome : Except Failure Template → Except Failure ParseResult
  | .ok template => .ok (.success template)
  | .error (.template error) => .ok (.failure error.message error.position)
  | .error other => .error other

def tryParse (text : String) : Except Failure ParseResult :=
  ParseResult.ofOutcome (parse text)

/-- The tree of tokens that have all been read. -/
def parseTokens (tokens : List Token) : Except Failure Template :=
  Parser.outcome (tokens.length + 1) (.ofTokens tokens)

end Stencil
