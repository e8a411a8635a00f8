import Stencil.Node.Parse

/-! Derivations of the grammar, as data: one constructor for every alternative of a rule, with the
tokens that the rule names. A derivation has the tokens it derives and the tree it stands for. -/

namespace Stencil.Grammar

/-- A token of a kind. -/
@[ext] structure Terminal (kind : TokenKind) where
  token : Token
  known : token.kind = kind

/-- The token of a kind with some characters at a place. -/
def Terminal.spelled {kind : TokenKind} (lexeme : List Char) (position : Position) :
    Terminal kind :=
  ⟨⟨kind, String.ofList lexeme, position⟩, rfl⟩

mutual

/-- A number, a string, a call with or without arguments, or a property. -/
inductive Argument where
  | number (digits : Terminal .number)
  | string (literal : Terminal .string)
  | property (name : Terminal .identifier)
  | call (name : Terminal .identifier) (opening : Terminal .openParen) (inner : Arguments)
      (closing : Terminal .closeParen)

inductive Arguments where
  | none
  | some (first : Argument) (others : MoreArguments)

inductive MoreArguments where
  | nil
  | cons (comma : Terminal .comma) (next : Argument) (others : MoreArguments)

end

structure PipedArgument where
  mark : Terminal .pipe
  target : Argument

structure Chain where
  first : Argument
  others : List PipedArgument

structure Hole where
  opening : Terminal .openHole
  chain : Chain
  closing : Terminal .closeHole

inductive Part where
  | hole (inner : Hole)
  | text (word : Terminal .text)

structure NextLine where
  mark : Terminal .lineBreak
  parts : List Part

/-- A derivation of a whole template. -/
structure Derivation where
  first : List Part
  others : List NextLine
  last : Terminal .endOfInput

/-! ### Derived tokens -/

mutual

def Argument.tokens : Argument → List Token
  | .number digits => [digits.token]
  | .string literal => [literal.token]
  | .property name => [name.token]
  | .call name opening inner closing =>
    name.token :: opening.token :: (inner.tokens ++ [closing.token])

def Arguments.tokens : Arguments → List Token
  | .none => []
  | .some first others => first.tokens ++ others.tokens

def MoreArguments.tokens : MoreArguments → List Token
  | .nil => []
  | .cons comma next others => comma.token :: (next.tokens ++ others.tokens)

end

def PipedArgument.tokens (piped : PipedArgument) : List Token :=
  piped.mark.token :: piped.target.tokens

def Chain.tokens (chain : Chain) : List Token :=
  chain.first.tokens ++ chain.others.flatMap PipedArgument.tokens

def Hole.tokens (hole : Hole) : List Token :=
  hole.opening.token :: (hole.chain.tokens ++ [hole.closing.token])

def Part.tokens : Part → List Token
  | .hole inner => inner.tokens
  | .text word => [word.token]

def NextLine.tokens (line : NextLine) : List Token :=
  line.mark.token :: line.parts.flatMap Part.tokens

def Derivation.tokens (derivation : Derivation) : List Token :=
  derivation.first.flatMap Part.tokens ++
    (derivation.others.flatMap NextLine.tokens ++ [derivation.last.token])

/-! ### Derived trees -/

mutual

def Argument.node : Argument → Node
  | .number digits =>
    .constant (.integer (Number.ofDigits digits.token.lexeme.toList)) digits.token.position
  | .string literal =>
    .constant (.text (Literal.decode literal.token.lexeme)) literal.token.position
  | .property name => .property name.token.lexeme name.token.position
  | .call name _ inner _ => .call name.token.lexeme inner.nodes name.token.position

def Arguments.nodes : Arguments → List Node
  | .none => []
  | .some first others => first.node :: others.nodes

def MoreArguments.nodes : MoreArguments → List Node
  | .nil => []
  | .cons _ next others => next.node :: others.nodes

end

def PipedArgument.node (left : Node) (piped : PipedArgument) : Node :=
  .pipe left piped.target.node piped.mark.token.position

/-- Pipes bind to the left. -/
def Chain.node (chain : Chain) : Node := chain.others.foldl PipedArgument.node chain.first.node

def Part.node : Part → Node
  | .hole inner => inner.chain.node
  | .text word => .text word.token.lexeme word.token.position

/-- A line starts where its first token is. One without parts starts where the token behind it
is, and holds one empty text there. -/
def line (parts : List Part) (following : Token) : Line :=
  match parts.flatMap Part.tokens with
  | [] => ⟨[.text "" following.position], following.position⟩
  | token :: _ => ⟨parts.map Part.node, token.position⟩

/-- The token behind a line. -/
def following (others : List NextLine) (last : Token) : Token :=
  match others with
  | [] => last
  | next :: _ => next.mark.token

def nextLines (last : Token) : List NextLine → List Line
  | [] => []
  | next :: others => line next.parts (following others last) :: nextLines last others

def Derivation.template (derivation : Derivation) : Template :=
  ⟨line derivation.first (following derivation.others derivation.last.token) ::
    nextLines derivation.last.token derivation.others⟩

/-! ### Kinds of derived tokens -/

/-- Kinds of the tokens between the braces of a hole. -/
def isBetweenBraces : TokenKind → Bool
  | .number | .string | .identifier | .openParen | .closeParen | .comma | .pipe => true
  | _ => false

mutual

theorem Argument.isBetweenBraces_of_mem : (argument : Argument) → {token : Token} →
    token ∈ argument.tokens → isBetweenBraces token.kind = true
  | .number digits, token, member => by
    rw [List.mem_singleton.mp member, digits.known]
    rfl
  | .string literal, token, member => by
    rw [List.mem_singleton.mp member, literal.known]
    rfl
  | .property name, token, member => by
    rw [List.mem_singleton.mp member, name.known]
    rfl
  | .call name opening inner closing, token, member => by
    simp only [Argument.tokens, List.mem_cons, List.mem_append, List.not_mem_nil, or_false]
      at member
    rcases member with rfl | rfl | within | rfl
    · rw [name.known]; rfl
    · rw [opening.known]; rfl
    · exact inner.isBetweenBraces_of_mem within
    · rw [closing.known]; rfl

theorem Arguments.isBetweenBraces_of_mem : (arguments : Arguments) → {token : Token} →
    token ∈ arguments.tokens → isBetweenBraces token.kind = true
  | .some first others, token, member => by
    rcases List.mem_append.mp member with within | later
    · exact first.isBetweenBraces_of_mem within
    · exact others.isBetweenBraces_of_mem later

theorem MoreArguments.isBetweenBraces_of_mem : (arguments : MoreArguments) → {token : Token} →
    token ∈ arguments.tokens → isBetweenBraces token.kind = true
  | .cons comma next others, token, member => by
    rw [MoreArguments.tokens, List.mem_cons, List.mem_append] at member
    rcases member with rfl | within | later
    · rw [comma.known]; rfl
    · exact next.isBetweenBraces_of_mem within
    · exact others.isBetweenBraces_of_mem later

end

theorem Chain.isBetweenBraces_of_mem (chain : Chain) {token : Token}
    (member : token ∈ chain.tokens) : isBetweenBraces token.kind = true := by
  rcases List.mem_append.mp member with within | later
  · exact chain.first.isBetweenBraces_of_mem within
  · obtain ⟨piped, -, inside⟩ := List.mem_flatMap.mp later
    rcases List.mem_cons.mp inside with rfl | within
    · rw [piped.mark.known]; rfl
    · exact piped.target.isBetweenBraces_of_mem within

/-! ### What tokens begin with -/

/-- An argument is a number or a string, or begins with an identifier. -/
theorem Argument.exists_cons (argument : Argument) :
    ∃ token rest, argument.tokens = token :: rest ∧ token.kind.startsArgument = true := by
  cases argument with
  | number digits => exact ⟨digits.token, [], rfl, by rw [digits.known]; rfl⟩
  | string literal => exact ⟨literal.token, [], rfl, by rw [literal.known]; rfl⟩
  | property name => exact ⟨name.token, [], rfl, by rw [name.known]; rfl⟩
  | call name opening inner closing =>
    exact ⟨name.token, _, rfl, by rw [name.known]; rfl⟩

theorem Part.exists_cons (part : Part) :
    ∃ token rest, part.tokens = token :: rest ∧ (token.kind = .openHole ∨ token.kind = .text) := by
  cases part with
  | hole inner => exact ⟨inner.opening.token, _, rfl, .inl inner.opening.known⟩
  | text word => exact ⟨word.token, [], rfl, .inr word.known⟩

/-- A token follows that does not open the arguments of a call. -/
def Guarded (rest : List Token) : Prop :=
  ∃ following more, rest = following :: more ∧ following.kind ≠ .openParen

theorem guarded_cons {token : Token} {kind : TokenKind} (found : token.kind = kind)
    (other : kind ≠ .openParen) (more : List Token) : Guarded (token :: more) :=
  ⟨token, more, rfl, by rwa [found]⟩

theorem guarded_moreArguments (others : MoreArguments) (closing : Terminal .closeParen)
    (rest : List Token) : Guarded (others.tokens ++ closing.token :: rest) := by
  cases others with
  | nil => exact guarded_cons closing.known (by decide) rest
  | cons comma next others => exact guarded_cons comma.known (by decide) _

theorem guarded_pipedArguments (others : List PipedArgument) (closing : Terminal .closeHole)
    (rest : List Token) :
    Guarded (others.flatMap PipedArgument.tokens ++ closing.token :: rest) := by
  cases others with
  | nil => exact guarded_cons closing.known (by decide) rest
  | cons next others => exact guarded_cons next.mark.known (by decide) _

theorem eq_following {others : List NextLine} {behind last : Token} {rest more : List Token}
    (same : behind :: rest = others.flatMap NextLine.tokens ++ last :: more) :
    behind = following others last := by
  cases others with
  | nil => exact (List.cons.inj same).1
  | cons next others => exact (List.cons.inj same).1

/-- A token that ends a line. -/
def EndsLine (token : Token) : Prop := token.kind = .lineBreak ∨ token.kind = .endOfInput

/-- The token behind a line ends it, and is the first of those that are left. -/
theorem following_spec (others : List NextLine) (last : Terminal .endOfInput) :
    EndsLine (following others last.token) ∧
    ∀ more, ∃ rest, others.flatMap NextLine.tokens ++ last.token :: more =
      following others last.token :: rest := by
  cases others with
  | nil => exact ⟨.inr last.known, fun more => ⟨more, rfl⟩⟩
  | cons next others => exact ⟨.inl next.mark.known, fun more => ⟨_, rfl⟩⟩

end Stencil.Grammar
