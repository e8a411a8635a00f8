import Stencil.Node.Parse

/-! Parsing of tokens that have all been read. Nothing is buffered here: each function takes the
list of tokens and returns what it has read with the tokens behind it. -/

namespace Stencil.Eager

/-- What became of a list of tokens. -/
inductive Outcome (α : Type) where
  | read (value : α) (rest : List Token)
  /-- The grammar does not allow the token. -/
  | refused (found : Token) (expected : Expectation)
  /-- There are too few tokens. -/
  | starved

namespace Outcome

variable {α β : Type}

def andThen : Outcome α → (α → List Token → Outcome β) → Outcome β
  | read value rest, next => next value rest
  | refused found expected, _ => refused found expected
  | starved, _ => starved

def map (change : α → β) (outcome : Outcome α) : Outcome β :=
  outcome.andThen fun value rest => read (change value) rest

def toExcept : Outcome α → Except Failure α
  | read value _ => .ok value
  | refused found expected => .error (.template (.grammar found expected))
  | starved => .error .noMoreTokens

theorem read_andThen (value : α) (rest : List Token) (next : α → List Token → Outcome β) :
    (read value rest).andThen next = next value rest := rfl

variable {γ : Type} {outcome : Outcome α} {rest : List Token}

theorem map_map (outcome : Outcome α) (first : α → β) (second : β → γ) :
    (outcome.map first).map second = outcome.map fun value => second (first value) := by
  cases outcome <;> rfl

theorem map_andThen (outcome : Outcome α) (build : α → β) (next : β → List Token → Outcome γ) :
    (outcome.map build).andThen next = outcome.andThen fun value => next (build value) := by
  cases outcome <;> rfl

theorem andThen_map (outcome : Outcome α) (next : α → List Token → Outcome β) (build : β → γ) :
    (outcome.andThen next).map build =
      outcome.andThen fun value rest => (next value rest).map build := by
  cases outcome <;> rfl

theorem map_congr {first second : α → β}
    (same : ∀ value rest, outcome = read value rest → first value = second value) :
    outcome.map first = outcome.map second := by
  cases outcome with
  | read value rest => exact congrArg (fun value => read value rest) (same value rest rfl)
  | refused found expected => rfl
  | starved => rfl

theorem toExcept_map (outcome : Outcome α) (build : α → β) :
    (outcome.map build).toExcept = outcome.toExcept.map build := by
  cases outcome <;> rfl

theorem map_id (outcome : Outcome α) : outcome.map id = outcome := by
  cases outcome <;> rfl

theorem read_of_andThen {next : α → List Token → Outcome β} {result : β}
    (done : outcome.andThen next = read result rest) :
    ∃ value middle, outcome = read value middle ∧ next value middle = read result rest := by
  cases outcome with
  | read value middle => exact ⟨value, middle, rfl, done⟩
  | refused found expected => cases done
  | starved => cases done

theorem read_of_map {change : α → β} {result : β} (done : outcome.map change = read result rest) :
    ∃ value, outcome = read value rest ∧ change value = result := by
  obtain ⟨value, middle, same, last⟩ := read_of_andThen done
  cases last
  exact ⟨value, same, rfl⟩

end Outcome

def expect (kind : TokenKind) (expected : Expectation) : List Token → Outcome Token
  | [] => .starved
  | token :: rest => if token.kind = kind then .read token rest else .refused token expected

theorem expect_cons {kind : TokenKind} {expected : Expectation} {token : Token} {rest : List Token}
    (found : token.kind = kind) : expect kind expected (token :: rest) = .read token rest := by
  rw [expect, if_pos found]

theorem cons_of_expect {kind : TokenKind} {expected : Expectation} {tokens rest : List Token}
    {token : Token} (done : expect kind expected tokens = .read token rest) :
    tokens = token :: rest ∧ token.kind = kind := by
  unfold expect at done
  split at done
  · cases done
  · split at done
    · cases done
      exact ⟨rfl, ‹_›⟩
    · cases done

/-! The first argument of the following functions bounds the depth of their recursion. -/

mutual

def argument : Nat → List Token → Outcome Node
  | 0, _ => .starved
  | _ + 1, [] => .starved
  | depth + 1, token :: rest =>
    match token.kind with
    | .number =>
      .read (.constant (.integer (Number.ofDigits token.lexeme.toList)) token.position) rest
    | .string => .read (.constant (.text (Literal.decode token.lexeme)) token.position) rest
    | .identifier =>
      match rest with
      | [] => .starved
      | opening :: inner =>
        if opening.kind = .openParen then call depth token inner
        else .read (.property token.lexeme token.position) (opening :: inner)
    | _ => .refused token .argument

/-- A call whose name and opening parenthesis have been read. -/
def call : Nat → Token → List Token → Outcome Node
  | 0, _, _ => .starved
  | _ + 1, _, [] => .starved
  | depth + 1, name, token :: rest =>
    if token.kind.startsArgument then
      (argument depth (token :: rest)).andThen fun first tokens =>
      (moreArguments depth tokens).andThen fun others tokens =>
      (expect .closeParen .commaOrCloseParen tokens).map fun _ =>
      .call name.lexeme (first :: others) name.position
    else
      (expect .closeParen .argumentOrCloseParen (token :: rest)).map fun _ =>
      .call name.lexeme [] name.position

def moreArguments : Nat → List Token → Outcome (List Node)
  | 0, _ => .starved
  | _ + 1, [] => .starved
  | depth + 1, token :: rest =>
    if token.kind = .comma then
      (argument depth rest).andThen fun next tokens =>
      (moreArguments depth tokens).map fun others => next :: others
    else .read [] (token :: rest)

end

def pipes : Nat → Node → List Token → Outcome Node
  | 0, _, _ => .starved
  | _ + 1, _, [] => .starved
  | depth + 1, left, token :: rest =>
    if token.kind = .pipe then
      (argument depth rest).andThen fun right tokens =>
      pipes depth (.pipe left right token.position) tokens
    else .read left (token :: rest)

def chain (depth : Nat) (tokens : List Token) : Outcome Node :=
  (argument depth tokens).andThen fun first tokens => pipes depth first tokens

def parts : Nat → List Token → Outcome (List Node)
  | 0, _ => .starved
  | _ + 1, [] => .starved
  | depth + 1, token :: rest =>
    match token.kind with
    | .text =>
      (parts depth rest).map fun others => .text token.lexeme token.position :: others
    | .openHole =>
      (chain depth rest).andThen fun first tokens =>
      (expect .closeHole .pipeOrCloseHole tokens).andThen fun _ tokens =>
      (parts depth tokens).map fun others => first :: others
    | _ => .read [] (token :: rest)

def line (depth : Nat) : List Token → Outcome Line
  | [] => .starved
  | token :: rest => (parts depth (token :: rest)).map (Parser.lineOf token.position)

def moreLines : Nat → List Token → Outcome (List Line)
  | 0, _ => .starved
  | _ + 1, [] => .starved
  | depth + 1, token :: rest =>
    if token.kind = .lineBreak then
      (line depth rest).andThen fun next tokens =>
      (moreLines depth tokens).map fun others => next :: others
    else .read [] (token :: rest)

/-- The end of the input is looked at and stays. -/
def ended : List Token → Outcome Unit
  | [] => .starved
  | token :: rest =>
    if token.kind = .endOfInput then .read () (token :: rest) else .refused token .lineBreakOrEnd

theorem cons_of_ended {tokens rest : List Token} {value : Unit}
    (done : ended tokens = .read value rest) :
    ∃ token more, tokens = token :: more ∧ token.kind = .endOfInput ∧ rest = tokens := by
  unfold ended at done
  split at done
  · cases done
  · split at done
    · cases done
      exact ⟨_, _, rfl, ‹_›, rfl⟩
    · cases done

def template (depth : Nat) (tokens : List Token) : Outcome Template :=
  (line depth tokens).andThen fun first tokens =>
  (moreLines depth tokens).andThen fun others tokens =>
  (ended tokens).map fun _ => ⟨first :: others⟩

/-- A template has been read only when the end of the input is next. -/
theorem endOfInput_of_template {depth : Nat} {tokens rest : List Token} {value : Template}
    (done : template depth tokens = .read value rest) :
    ∃ token more, rest = token :: more ∧ token.kind = .endOfInput := by
  obtain ⟨first, middle, -, done⟩ := Outcome.read_of_andThen done
  obtain ⟨others, last, -, done⟩ := Outcome.read_of_andThen done
  obtain ⟨_, ended, -⟩ := Outcome.read_of_map done
  obtain ⟨token, more, rfl, kind, rfl⟩ := cons_of_ended ended
  exact ⟨token, more, rfl, kind⟩

/-- The tree of a complete list of tokens. -/
def parse (tokens : List Token) : Except Failure Template :=
  (template (tokens.length + 1) tokens).toExcept

end Stencil.Eager
