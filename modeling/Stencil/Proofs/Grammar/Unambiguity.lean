import Stencil.Proofs.Grammar.Derivation

/-! The grammar is unambiguous: tokens have at most one derivation. For the parts of a template
this is said of tokens with others behind them, which may be different ones. -/

namespace Stencil.Grammar

variable {rest rest' : List Token}

theorem Terminal.cons_ne_cons {kind kind' : TokenKind} {a : Terminal kind} {b : Terminal kind'}
    (different : kind ≠ kind') : a.token :: rest ≠ b.token :: rest' := by
  intro same
  rw [← a.known, ← b.known, (List.cons.inj same).1] at different
  exact different rfl

theorem Terminal.eq_of_cons {kind : TokenKind} {a b : Terminal kind}
    (same : a.token :: rest = b.token :: rest') : a = b ∧ rest = rest' :=
  ⟨Terminal.ext (List.cons.inj same).1, (List.cons.inj same).2⟩

/-- Only arguments begin in the way arguments do. -/
theorem Argument.tokens_ne_cons (argument : Argument) {token : Token}
    (other : token.kind.startsArgument = false) : argument.tokens ++ rest ≠ token :: rest' := by
  obtain ⟨first, more, tokens, starts⟩ := argument.exists_cons
  intro same
  rw [tokens] at same
  rw [(List.cons.inj same).1, other] at starts
  cases starts

mutual

theorem Argument.eq_of_tokens : (a b : Argument) → {rest rest' : List Token} → Guarded rest →
    Guarded rest' → a.tokens ++ rest = b.tokens ++ rest' → a = b ∧ rest = rest'
  | .number digits, b, _, _, _, _, same => by
    cases b with
    | number other =>
      obtain ⟨rfl, rest⟩ := Terminal.eq_of_cons same
      exact ⟨rfl, rest⟩
    | _ => exact absurd same (Terminal.cons_ne_cons (by decide))
  | .string literal, b, _, _, _, _, same => by
    cases b with
    | string other =>
      obtain ⟨rfl, rest⟩ := Terminal.eq_of_cons same
      exact ⟨rfl, rest⟩
    | _ => exact absurd same (Terminal.cons_ne_cons (by decide))
  | .property name, b, _, _, guarded, _, same => by
    cases b with
    | property other =>
      obtain ⟨rfl, rest⟩ := Terminal.eq_of_cons same
      exact ⟨rfl, rest⟩
    | call other opening inner closing =>
      obtain ⟨following, more, rfl, unopened⟩ := guarded
      have opened := (List.cons.inj (List.cons.inj same).2).1
      rw [opened, opening.known] at unopened
      exact absurd rfl unopened
    | _ => exact absurd same (Terminal.cons_ne_cons (by decide))
  | .call name opening inner closing, b, _, _, _, guarded, same => by
    cases b with
    | call name' opening' inner' closing' =>
      simp only [Argument.tokens, List.cons_append, List.append_assoc, List.nil_append] at same
      obtain ⟨rfl, behindName⟩ := Terminal.eq_of_cons same
      obtain ⟨rfl, behindOpening⟩ := Terminal.eq_of_cons behindName
      obtain ⟨rfl, rfl, rest⟩ := Arguments.eq_of_tokens inner inner' behindOpening
      exact ⟨rfl, rest⟩
    | property other =>
      obtain ⟨following, more, rfl, unopened⟩ := guarded
      have opened := (List.cons.inj (List.cons.inj same).2).1
      rw [← opened, opening.known] at unopened
      exact absurd rfl unopened
    | _ => exact absurd same (Terminal.cons_ne_cons (by decide))

theorem Arguments.eq_of_tokens : (a b : Arguments) → {closing closing' : Terminal .closeParen} →
    {rest rest' : List Token} →
    a.tokens ++ closing.token :: rest = b.tokens ++ closing'.token :: rest' →
    a = b ∧ closing = closing' ∧ rest = rest'
  | .none, b, closing, closing', rest, rest', same => by
    cases b with
    | none => exact ⟨rfl, Terminal.eq_of_cons same⟩
    | some first others =>
      rw [Arguments.tokens, Arguments.tokens, List.append_assoc] at same
      exact absurd same.symm (first.tokens_ne_cons (by rw [closing.known]; rfl))
  | .some first others, b, closing, closing', rest, rest', same => by
    cases b with
    | none =>
      rw [Arguments.tokens, Arguments.tokens, List.append_assoc] at same
      exact absurd same (first.tokens_ne_cons (by rw [closing'.known]; rfl))
    | some first' others' =>
      simp only [Arguments.tokens, List.append_assoc] at same
      obtain ⟨rfl, behindFirst⟩ := Argument.eq_of_tokens first first'
        (guarded_moreArguments others closing rest) (guarded_moreArguments others' closing' rest')
        same
      obtain ⟨rfl, closed⟩ := MoreArguments.eq_of_tokens others others' behindFirst
      exact ⟨rfl, closed⟩

theorem MoreArguments.eq_of_tokens : (a b : MoreArguments) →
    {closing closing' : Terminal .closeParen} → {rest rest' : List Token} →
    a.tokens ++ closing.token :: rest = b.tokens ++ closing'.token :: rest' →
    a = b ∧ closing = closing' ∧ rest = rest'
  | .nil, b, _, _, _, _, same => by
    cases b with
    | nil => exact ⟨rfl, Terminal.eq_of_cons same⟩
    | cons => exact absurd same (Terminal.cons_ne_cons (by decide))
  | .cons comma next others, b, closing, closing', rest, rest', same => by
    cases b with
    | nil => exact absurd same (Terminal.cons_ne_cons (by decide))
    | cons comma' next' others' =>
      simp only [MoreArguments.tokens, List.cons_append, List.append_assoc] at same
      obtain ⟨rfl, behindComma⟩ := Terminal.eq_of_cons same
      obtain ⟨rfl, behindNext⟩ := Argument.eq_of_tokens next next'
        (guarded_moreArguments others closing rest) (guarded_moreArguments others' closing' rest')
        behindComma
      obtain ⟨rfl, closed⟩ := MoreArguments.eq_of_tokens others others' behindNext
      exact ⟨rfl, closed⟩

end

theorem pipedArguments_eq_of_tokens {a b : List PipedArgument}
    {closing closing' : Terminal .closeHole}
    (same : a.flatMap PipedArgument.tokens ++ closing.token :: rest =
      b.flatMap PipedArgument.tokens ++ closing'.token :: rest') :
    a = b ∧ closing = closing' ∧ rest = rest' := by
  induction a generalizing b with
  | nil =>
    cases b with
    | nil => exact ⟨rfl, Terminal.eq_of_cons same⟩
    | cons => exact absurd same (Terminal.cons_ne_cons (by decide))
  | cons piped others ih =>
    cases b with
    | nil => exact absurd same (Terminal.cons_ne_cons (by decide))
    | cons piped' others' =>
      obtain ⟨mark, target⟩ := piped
      obtain ⟨mark', target'⟩ := piped'
      simp only [List.flatMap_cons, PipedArgument.tokens, List.cons_append, List.append_assoc]
        at same
      obtain ⟨rfl, behindMark⟩ := Terminal.eq_of_cons same
      obtain ⟨rfl, behindTarget⟩ := target.eq_of_tokens target'
        (guarded_pipedArguments others closing rest)
        (guarded_pipedArguments others' closing' rest') behindMark
      obtain ⟨rfl, closed⟩ := ih behindTarget
      exact ⟨rfl, closed⟩

theorem Hole.eq_of_tokens {a b : Hole} (same : a.tokens ++ rest = b.tokens ++ rest') :
    a = b ∧ rest = rest' := by
  obtain ⟨opening, ⟨first, others⟩, closing⟩ := a
  obtain ⟨opening', ⟨first', others'⟩, closing'⟩ := b
  simp only [Hole.tokens, Chain.tokens, List.cons_append, List.append_assoc, List.nil_append]
    at same
  obtain ⟨rfl, behindOpening⟩ := Terminal.eq_of_cons same
  obtain ⟨rfl, behindFirst⟩ := first.eq_of_tokens first'
    (guarded_pipedArguments others closing rest) (guarded_pipedArguments others' closing' rest')
    behindOpening
  obtain ⟨rfl, rfl, rest⟩ := pipedArguments_eq_of_tokens behindFirst
  exact ⟨rfl, rest⟩

theorem Part.eq_of_tokens {a b : Part} (same : a.tokens ++ rest = b.tokens ++ rest') :
    a = b ∧ rest = rest' := by
  cases a with
  | hole inner =>
    cases b with
    | hole inner' =>
      obtain ⟨rfl, rest⟩ := Hole.eq_of_tokens same
      exact ⟨rfl, rest⟩
    | text word => exact absurd same (Terminal.cons_ne_cons (by decide))
  | text word =>
    cases b with
    | hole inner => exact absurd same (Terminal.cons_ne_cons (by decide))
    | text word' =>
      obtain ⟨rfl, rest⟩ := Terminal.eq_of_cons same
      exact ⟨rfl, rest⟩

/-- A token that ends a line is not in a part. -/
theorem Part.tokens_ne_cons (part : Part) {token : Token} (ends : EndsLine token) :
    part.tokens ++ rest ≠ token :: rest' := by
  obtain ⟨first, more, tokens, kind⟩ := part.exists_cons
  intro same
  rw [tokens] at same
  rw [(List.cons.inj same).1] at kind
  rcases ends with found | found <;> rcases kind with other | other <;> simp [found] at other

theorem parts_eq_of_tokens {a b : List Part} {token token' : Token} (ends : EndsLine token)
    (ends' : EndsLine token')
    (same : a.flatMap Part.tokens ++ token :: rest = b.flatMap Part.tokens ++ token' :: rest') :
    a = b ∧ token :: rest = token' :: rest' := by
  induction a generalizing b with
  | nil =>
    cases b with
    | nil => exact ⟨rfl, same⟩
    | cons part others =>
      rw [List.flatMap_cons, List.append_assoc] at same
      exact absurd same.symm (part.tokens_ne_cons ends)
  | cons part others ih =>
    rw [List.flatMap_cons, List.append_assoc] at same
    cases b with
    | nil => exact absurd same (part.tokens_ne_cons ends')
    | cons part' others' =>
      rw [List.flatMap_cons, List.append_assoc] at same
      obtain ⟨rfl, behindPart⟩ := Part.eq_of_tokens same
      obtain ⟨rfl, rest⟩ := ih behindPart
      exact ⟨rfl, rest⟩

theorem nextLines_eq_of_tokens {a b : List NextLine} {last last' : Terminal .endOfInput}
    (same : a.flatMap NextLine.tokens ++ last.token :: rest =
      b.flatMap NextLine.tokens ++ last'.token :: rest') :
    a = b ∧ last = last' ∧ rest = rest' := by
  induction a generalizing b with
  | nil =>
    cases b with
    | nil => exact ⟨rfl, Terminal.eq_of_cons same⟩
    | cons => exact absurd same (Terminal.cons_ne_cons (by decide))
  | cons next others ih =>
    cases b with
    | nil => exact absurd same (Terminal.cons_ne_cons (by decide))
    | cons next' others' =>
      obtain ⟨mark, parts⟩ := next
      obtain ⟨mark', parts'⟩ := next'
      simp only [List.flatMap_cons, NextLine.tokens, List.cons_append, List.append_assoc] at same
      obtain ⟨rfl, behindMark⟩ := Terminal.eq_of_cons same
      obtain ⟨ends, followed⟩ := following_spec others last
      obtain ⟨ends', followed'⟩ := following_spec others' last'
      obtain ⟨more, front⟩ := followed rest
      obtain ⟨more', front'⟩ := followed' rest'
      rw [front, front'] at behindMark
      obtain ⟨rfl, behindLine⟩ := parts_eq_of_tokens ends ends' behindMark
      rw [← front, ← front'] at behindLine
      obtain ⟨rfl, closed⟩ := ih behindLine
      exact ⟨rfl, closed⟩

/-- Tokens have at most one derivation. -/
theorem Derivation.tokens_injective {a b : Derivation} (same : a.tokens = b.tokens) : a = b := by
  obtain ⟨first, others, last⟩ := a
  obtain ⟨first', others', last'⟩ := b
  simp only [Derivation.tokens] at same
  obtain ⟨ends, followed⟩ := following_spec others last
  obtain ⟨ends', followed'⟩ := following_spec others' last'
  obtain ⟨more, front⟩ := followed []
  obtain ⟨more', front'⟩ := followed' []
  rw [front, front'] at same
  obtain ⟨rfl, behindLine⟩ := parts_eq_of_tokens ends ends' same
  rw [← front, ← front'] at behindLine
  obtain ⟨rfl, rfl, -⟩ := nextLines_eq_of_tokens behindLine
  rfl

end Stencil.Grammar
