import Stencil.Proofs.Parser.Laziness

/-! The bound of the recursion. Every bound that is greater than the number of tokens comes to the same
outcome, since it agrees with the parser that reads on demand. -/

namespace Stencil.Eager

variable {left right : Nat} {tokens : List Token}

/-- The lines of a template, up to the token that ends the last of them. -/
def lines (depth : Nat) (tokens : List Token) : Outcome (List Line) :=
  (line depth tokens).andThen fun first tokens =>
  (moreLines depth tokens).map fun others => first :: others

theorem template_eq_lines (depth : Nat) (tokens : List Token) :
    template depth tokens =
      (lines depth tokens).andThen fun lines tokens => (ended tokens).map fun _ => ⟨lines⟩ := by
  unfold template lines
  cases line depth tokens with
  | read first rest =>
    simp only [Outcome.read_andThen]
    cases moreLines depth rest <;> rfl
  | _ => rfl

theorem parts_bound (leftEnough : tokens.length < left) (rightEnough : tokens.length < right) :
    parts left tokens = parts right tokens :=
  (Parser.agree_parts left left tokens leftEnough leftEnough).unique
    (Parser.agree_parts left right tokens leftEnough rightEnough)

theorem lines_bound (leftEnough : tokens.length < left) (rightEnough : tokens.length < right) :
    lines left tokens = lines right tokens := by
  have agree : ∀ depth, tokens.length < depth → Parser.Agree none tokens
      (Parser.line left >>= fun first => Parser.moreLines left >>= fun others =>
        pure (first :: others)) (lines depth tokens) := by
    intro depth enough
    apply (Parser.agree_line leftEnough enough).bind
    intro first after remains
    have shorter := remains.length_le
    apply (Parser.agree_moreLines left depth after (by omega) (by omega)).bind
    intro others last _
    exact Parser.agree_pure _
  exact (agree left leftEnough).unique (agree right rightEnough)

theorem template_bound (leftEnough : tokens.length < left) (rightEnough : tokens.length < right) :
    template left tokens = template right tokens :=
  (Parser.agree_template leftEnough leftEnough).unique
    (Parser.agree_template leftEnough rightEnough)

theorem parse_eq_template (enough : tokens.length < right) :
    parse tokens = (template right tokens).toExcept := by
  rw [parse, template_bound (Nat.lt_succ_self _) enough]

end Stencil.Eager
