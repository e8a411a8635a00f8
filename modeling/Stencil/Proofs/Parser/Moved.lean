import Stencil.Proofs.Failure.Moved
import Stencil.Proofs.Parser.Eager

/-! Parsing tokens at other places. The parser looks at the kinds of tokens only and hands their places on
to the tree, or to the token that it refuses. -/

namespace Stencil.Eager

variable (move : Position → Position)

namespace Outcome

variable {α β : Type}

/-- An outcome for tokens at other places, given what becomes of a value that is read. -/
def moved (change : α → α) : Outcome α → Outcome α
  | read value rest => .read (change value) (rest.map (Token.moved move))
  | refused found expected => .refused (found.moved move) expected
  | starved => .starved

variable {move} {change : α → α} {change' : β → β}

theorem andThen_moved {next next' : α → List Token → Outcome β} (outcome : Outcome α)
    (commutes : ∀ value rest, next' (change value) (rest.map (Token.moved move)) =
      (next value rest).moved move change') :
    (outcome.moved move change).andThen next' = (outcome.andThen next).moved move change' := by
  cases outcome with
  | read value rest => exact commutes value rest
  | refused found expected => rfl
  | starved => rfl

theorem map_moved {build build' : α → β} (outcome : Outcome α)
    (commutes : ∀ value, build' (change value) = change' (build value)) :
    (outcome.moved move change).map build' = (outcome.map build).moved move change' := by
  apply andThen_moved
  intro value rest
  rw [commutes]
  rfl

theorem toExcept_moved (outcome : Outcome α) :
    (outcome.moved move change).toExcept =
      (outcome.toExcept.mapError (Failure.moved move)).map change := by
  cases outcome <;> rfl

end Outcome

theorem expect_moved (kind : TokenKind) (expected : Expectation) (tokens : List Token) :
    expect kind expected (tokens.map (Token.moved move)) =
      (expect kind expected tokens).moved move (Token.moved move) := by
  cases tokens with
  | nil => rfl
  | cons token rest =>
    rw [List.map_cons, expect, expect, Token.kind_moved]
    split <;> rfl

mutual

theorem argument_moved : (depth : Nat) → (tokens : List Token) →
    argument depth (tokens.map (Token.moved move)) =
      (argument depth tokens).moved move (Node.moved move)
  | 0, _ => rfl
  | _ + 1, [] => rfl
  | depth + 1, token :: rest => by
    simp only [List.map_cons, argument, Token.kind_moved]
    cases token.kind with
    | identifier =>
      cases rest with
      | nil => rfl
      | cons opening inner =>
        by_cases opened : opening.kind = .openParen
        · simp only [List.map_cons, Token.kind_moved, opened, if_true]
          exact call_moved depth token inner
        · simp only [List.map_cons, Token.kind_moved, opened, if_false]
          rfl
    | _ => rfl

theorem call_moved : (depth : Nat) → (name : Token) → (tokens : List Token) →
    call depth (name.moved move) (tokens.map (Token.moved move)) =
      (call depth name tokens).moved move (Node.moved move)
  | 0, _, _ => rfl
  | _ + 1, _, [] => rfl
  | depth + 1, name, token :: rest => by
    have closing := fun expected => expect_moved move .closeParen expected
    rw [List.map_cons, call, call, Token.kind_moved, ← List.map_cons]
    split
    · rw [argument_moved depth (token :: rest)]
      apply Outcome.andThen_moved
      intro first tokens
      rw [moreArguments_moved depth tokens]
      apply Outcome.andThen_moved
      intro others tokens
      rw [closing]
      apply Outcome.map_moved
      intro _
      rfl
    · rw [closing]
      apply Outcome.map_moved
      intro _
      rfl

theorem moreArguments_moved : (depth : Nat) → (tokens : List Token) →
    moreArguments depth (tokens.map (Token.moved move)) =
      (moreArguments depth tokens).moved move (Node.movedAll move)
  | 0, _ => rfl
  | _ + 1, [] => rfl
  | depth + 1, token :: rest => by
    rw [List.map_cons, moreArguments, moreArguments, Token.kind_moved]
    split
    · rw [argument_moved depth rest]
      apply Outcome.andThen_moved
      intro next tokens
      rw [moreArguments_moved depth tokens]
      apply Outcome.map_moved
      intro _
      rfl
    · rfl

end

theorem pipes_moved (depth : Nat) (left : Node) (tokens : List Token) :
    pipes depth (left.moved move) (tokens.map (Token.moved move)) =
      (pipes depth left tokens).moved move (Node.moved move) := by
  induction depth generalizing left tokens with
  | zero => rfl
  | succ depth ih =>
    cases tokens with
    | nil => rfl
    | cons token rest =>
      rw [List.map_cons, pipes, pipes, Token.kind_moved]
      split
      · rw [argument_moved move depth rest]
        apply Outcome.andThen_moved
        intro right tokens
        exact ih (.pipe left right token.position) tokens
      · rfl

theorem chain_moved (depth : Nat) (tokens : List Token) :
    chain depth (tokens.map (Token.moved move)) =
      (chain depth tokens).moved move (Node.moved move) := by
  rw [chain, chain, argument_moved]
  apply Outcome.andThen_moved
  intro first tokens
  exact pipes_moved move depth first tokens

theorem parts_moved (depth : Nat) (tokens : List Token) :
    parts depth (tokens.map (Token.moved move)) =
      (parts depth tokens).moved move (List.map (Node.moved move)) := by
  induction depth generalizing tokens with
  | zero => rfl
  | succ depth ih =>
    cases tokens with
    | nil => rfl
    | cons token rest =>
      rw [List.map_cons, parts, parts, Token.kind_moved]
      cases token.kind with
      | text =>
        simp only [ih]
        apply Outcome.map_moved
        intro others
        rfl
      | openHole =>
        simp only [chain_moved]
        apply Outcome.andThen_moved
        intro first tokens
        rw [expect_moved]
        apply Outcome.andThen_moved
        intro closing tokens
        rw [ih]
        apply Outcome.map_moved
        intro others
        rfl
      | _ => rfl

theorem lineOf_moved (start : Position) (parts : List Node) :
    Parser.lineOf (move start) (parts.map (Node.moved move)) =
      (Parser.lineOf start parts).moved move := by
  cases parts <;> rfl

theorem line_moved (depth : Nat) (tokens : List Token) :
    line depth (tokens.map (Token.moved move)) =
      (line depth tokens).moved move (Line.moved move) := by
  cases tokens with
  | nil => rfl
  | cons token rest =>
    rw [List.map_cons, line, line, ← List.map_cons, parts_moved]
    apply Outcome.map_moved
    intro found
    exact lineOf_moved move token.position found

theorem moreLines_moved (depth : Nat) (tokens : List Token) :
    moreLines depth (tokens.map (Token.moved move)) =
      (moreLines depth tokens).moved move (List.map (Line.moved move)) := by
  induction depth generalizing tokens with
  | zero => rfl
  | succ depth ih =>
    cases tokens with
    | nil => rfl
    | cons token rest =>
      rw [List.map_cons, moreLines, moreLines, Token.kind_moved]
      split
      · rw [line_moved]
        apply Outcome.andThen_moved
        intro next tokens
        rw [ih]
        apply Outcome.map_moved
        intro others
        rfl
      · rfl

theorem ended_moved (tokens : List Token) :
    ended (tokens.map (Token.moved move)) = (ended tokens).moved move id := by
  cases tokens with
  | nil => rfl
  | cons token rest =>
    rw [List.map_cons, ended, ended, Token.kind_moved]
    split <;> rfl

theorem template_moved (depth : Nat) (tokens : List Token) :
    template depth (tokens.map (Token.moved move)) =
      (template depth tokens).moved move (Template.moved move) := by
  rw [template, template, line_moved]
  apply Outcome.andThen_moved
  intro first tokens
  rw [moreLines_moved]
  apply Outcome.andThen_moved
  intro others tokens
  rw [ended_moved]
  apply Outcome.map_moved
  intro _
  rfl

/-- Tokens at other places are parsed to the tree at those places, or refused there. -/
theorem parse_moved (tokens : List Token) :
    parse (tokens.map (Token.moved move)) =
      ((parse tokens).mapError (Failure.moved move)).map (Template.moved move) := by
  rw [parse, parse, List.length_map, template_moved, Outcome.toExcept_moved]

end Stencil.Eager
