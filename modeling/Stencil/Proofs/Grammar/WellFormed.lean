import Stencil.Proofs.Grammar.Acceptance
import Stencil.Proofs.Node.WellFormed
import Stencil.Proofs.Token.Neighbours

/-! Trees of parsed texts. Every token of a text is spelled in the way of its kind, and no text
follows another, so the trees consist of well-formed lines. -/

namespace Stencil

open Grammar

namespace Grammar

mutual

theorem Argument.isArgument_node : (argument : Argument) →
    (∀ token ∈ argument.tokens, token.IsSpelled) → argument.node.IsArgument
  | .number digits, spelled => by
    obtain ⟨_, _, _, spells⟩ := spelled digits.token List.mem_cons_self
    rw [digits.known] at spells
    exact ⟨Int.natCast_nonneg _, Int.ofNat_le.mpr spells.isNumeral.small⟩
  | .string literal, _ => trivial
  | .property name, spelled => by
    obtain ⟨_, _, _, spells⟩ := spelled name.token List.mem_cons_self
    rw [name.known] at spells
    exact spells.isName
  | .call name opening inner closing, spelled => by
    obtain ⟨_, _, _, spells⟩ := spelled name.token List.mem_cons_self
    rw [name.known] at spells
    refine ⟨spells.isName, inner.areArguments_nodes fun token member => spelled token ?_⟩
    simp [Argument.tokens, member]

theorem Arguments.areArguments_nodes : (arguments : Arguments) →
    (∀ token ∈ arguments.tokens, token.IsSpelled) → Node.AreArguments arguments.nodes
  | .none, _ => trivial
  | .some first others, spelled => by
    rw [Arguments.tokens, List.forall_mem_append] at spelled
    exact ⟨first.isArgument_node spelled.1, others.areArguments_nodes spelled.2⟩

theorem MoreArguments.areArguments_nodes : (arguments : MoreArguments) →
    (∀ token ∈ arguments.tokens, token.IsSpelled) → Node.AreArguments arguments.nodes
  | .nil, _ => trivial
  | .cons comma next others, spelled => by
    rw [MoreArguments.tokens, List.forall_mem_cons, List.forall_mem_append] at spelled
    exact ⟨next.isArgument_node spelled.2.1, others.areArguments_nodes spelled.2.2⟩

end

theorem Argument.isExpression_node (argument : Argument)
    (spelled : ∀ token ∈ argument.tokens, token.IsSpelled) : argument.node.IsExpression := by
  have valid := argument.isArgument_node spelled
  cases argument <;> exact valid

theorem isExpression_foldl (others : List PipedArgument) {left : Node} (valid : left.IsExpression)
    (spelled : ∀ token ∈ others.flatMap PipedArgument.tokens, token.IsSpelled) :
    (others.foldl PipedArgument.node left).IsExpression := by
  induction others generalizing left with
  | nil => exact valid
  | cons piped others ih =>
    rw [List.flatMap_cons, PipedArgument.tokens, List.cons_append, List.forall_mem_cons,
      List.forall_mem_append] at spelled
    exact ih ⟨valid, piped.target.isArgument_node spelled.2.1⟩ spelled.2.2

theorem Chain.isExpression_node (chain : Chain)
    (spelled : ∀ token ∈ chain.tokens, token.IsSpelled) : chain.node.IsExpression := by
  rw [Chain.tokens, List.forall_mem_append] at spelled
  exact isExpression_foldl chain.others (chain.first.isExpression_node spelled.1) spelled.2

end Grammar

theorem Node.isText_of_isExpression {node : Node} (valid : node.IsExpression) :
    node.isText = false := by
  cases node with
  | text => exact valid.elim
  | _ => rfl

namespace Grammar

theorem Hole.isExpression_node (hole : Hole)
    (spelled : ∀ token ∈ hole.tokens, token.IsSpelled) : hole.chain.node.IsExpression :=
  hole.chain.isExpression_node fun token member =>
    spelled token (List.mem_cons_of_mem _ (List.mem_append_left _ member))

theorem areParts_map_node (parts : List Part)
    (spelled : ∀ token ∈ parts.flatMap Part.tokens, token.IsSpelled)
    (apart : TextsApart (parts.flatMap Part.tokens)) : Node.AreParts (parts.map Part.node) := by
  induction parts with
  | nil => trivial
  | cons part others ih =>
    rw [List.flatMap_cons, List.forall_mem_append] at spelled
    rw [List.flatMap_cons] at apart
    have later := ih spelled.2 apart.of_append_right
    cases part with
    | hole inner =>
      have valid := inner.isExpression_node spelled.1
      have hole := Node.isText_of_isExpression valid
      refine ⟨(Node.isPart_iff_isExpression hole).mpr valid, fun _ _ literal => ?_, later⟩
      exact absurd (literal.symm.trans hole) Bool.noConfusion
    | text word =>
      obtain ⟨_, _, _, spells⟩ := spelled.1 word.token List.mem_cons_self
      rw [word.known] at spells
      refine ⟨spells.of_text.1, fun next member _ => ?_, later⟩
      cases others with
      | nil => cases member
      | cons second more =>
        cases member
        rw [List.flatMap_cons, List.forall_mem_append] at spelled
        cases second with
        | hole inner => exact Node.isText_of_isExpression (inner.isExpression_node spelled.2.1)
        | text other => exact absurd other.known (apart.1 word.known other.token rfl)

theorem isWellFormed_line (parts : List Part) (following : Token)
    (spelled : ∀ token ∈ parts.flatMap Part.tokens, token.IsSpelled)
    (apart : TextsApart (parts.flatMap Part.tokens)) : (line parts following).IsWellFormed := by
  cases parts with
  | nil => exact .inl ⟨following.position, rfl⟩
  | cons part others =>
    have valid := areParts_map_node (part :: others) spelled apart
    obtain ⟨first, inner, tokens, -⟩ := part.exists_cons
    rw [line, List.flatMap_cons, tokens]
    exact .inr ⟨List.cons_ne_nil _ _, valid⟩

theorem isWellFormed_nextLines (last : Token) (others : List NextLine)
    (spelled : ∀ token ∈ others.flatMap NextLine.tokens, token.IsSpelled)
    (apart : TextsApart (others.flatMap NextLine.tokens)) :
    ∀ line ∈ nextLines last others, line.IsWellFormed := by
  induction others with
  | nil => simp [nextLines]
  | cons next others ih =>
    rw [List.flatMap_cons, NextLine.tokens, List.cons_append, List.forall_mem_cons,
      List.forall_mem_append] at spelled
    rw [List.flatMap_cons, NextLine.tokens, List.cons_append] at apart
    rw [nextLines, List.forall_mem_cons]
    exact ⟨isWellFormed_line _ _ spelled.2.1 apart.2.of_append_left,
      ih spelled.2.2 apart.2.of_append_right⟩

theorem Derivation.isWellFormed_lines (derivation : Derivation)
    (spelled : ∀ token ∈ derivation.tokens, token.IsSpelled)
    (apart : TextsApart derivation.tokens) :
    ∀ line ∈ derivation.template.lines, line.IsWellFormed := by
  rw [Derivation.tokens, List.forall_mem_append, List.forall_mem_append] at spelled
  rw [Derivation.tokens] at apart
  rw [Derivation.template, List.forall_mem_cons]
  exact ⟨isWellFormed_line _ _ spelled.1 apart.of_append_left,
    isWellFormed_nextLines _ _ spelled.2.1 apart.of_append_right.of_append_left⟩

end Grammar

/-- The lines of a parsed text are well-formed, and there is at least one. -/
theorem isWellFormed_of_parse {text : String} {template : Template}
    (parsed : parse text = .ok template) :
    template.lines ≠ [] ∧ ∀ line ∈ template.lines, line.IsWellFormed := by
  obtain ⟨derivation, tokenized, rfl⟩ := Parser.exists_derivation_of_parse parsed
  have scanned : (Scanner.ofText text.toList).scan.tokens = derivation.tokens :=
    congrArg Scan.tokens (scan_of_tokenize tokenized)
  refine ⟨List.cons_ne_nil _ _, derivation.isWellFormed_lines ?_ ?_⟩
  · rw [← scanned]
    exact fun token => Scanner.isSpelled_of_mem_scan
  · rw [← scanned]
    exact Scanner.textsApart_of_scan _

end Stencil
