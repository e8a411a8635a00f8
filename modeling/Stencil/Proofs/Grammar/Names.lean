import Stencil.Proofs.Grammar.Derivation

/-! Names in tokens and in trees. An identifier directly before an opening parenthesis is the name
of a call, any other one the name of a property, and a derivation keeps their order. -/

namespace Stencil

/-- A name where it stands, and whether it is called there. -/
structure NameUse where
  name : String
  position : Position
  called : Bool
deriving DecidableEq, Repr

/-- An opening parenthesis is next. -/
def opensCall : List Token → Bool
  | [] => false
  | token :: _ => decide (token.kind = .openParen)

/-- The identifiers among tokens. -/
def nameUses : List Token → List NameUse
  | [] => []
  | token :: rest =>
    if token.kind = .identifier then
      ⟨token.lexeme, token.position, opensCall rest⟩ :: nameUses rest
    else nameUses rest

mutual

/-- The names in a tree, from left to right. -/
def Node.nameUses : Node → List NameUse
  | .text _ _ => []
  | .constant _ _ => []
  | .property name position => [⟨name, position, false⟩]
  | .call name arguments position => ⟨name, position, true⟩ :: Node.nameUsesAll arguments
  | .pipe left right _ => left.nameUses ++ right.nameUses
  | .line parts _ => Node.nameUsesAll parts
  | .template lines => Node.nameUsesAll lines
  | .bare => []

def Node.nameUsesAll : List Node → List NameUse
  | [] => []
  | node :: rest => node.nameUses ++ Node.nameUsesAll rest

end

def Template.nameUses (template : Template) : List NameUse := template.toNode.nameUses

namespace Grammar

theorem nameUses_cons_other {token : Token} {kind : TokenKind} (rest : List Token)
    (known : token.kind = kind) (other : kind ≠ .identifier) :
    nameUses (token :: rest) = nameUses rest := by
  rw [nameUses, if_neg (by rwa [known])]

theorem nameUses_cons_identifier (name : Terminal .identifier) (rest : List Token) :
    nameUses (name.token :: rest) =
      ⟨name.token.lexeme, name.token.position, opensCall rest⟩ :: nameUses rest := by
  rw [nameUses, if_pos name.known]

theorem opensCall_of_guarded {rest : List Token} (guarded : Guarded rest) :
    opensCall rest = false := by
  obtain ⟨following, more, rfl, other⟩ := guarded
  exact decide_eq_false other

mutual

theorem Argument.nameUses_append : (argument : Argument) → (rest : List Token) → Guarded rest →
    nameUses (argument.tokens ++ rest) = argument.node.nameUses ++ nameUses rest
  | .number digits, rest, _ => nameUses_cons_other rest digits.known (by decide)
  | .string literal, rest, _ => nameUses_cons_other rest literal.known (by decide)
  | .property name, rest, guarded => by
    rw [Argument.tokens, List.cons_append, List.nil_append, nameUses_cons_identifier,
      opensCall_of_guarded guarded]
    rfl
  | .call name opening inner closing, rest, _ => by
    have opened : opensCall (opening.token :: (inner.tokens ++ closing.token :: rest)) = true :=
      decide_eq_true opening.known
    simp only [Argument.tokens, List.cons_append, List.append_assoc, List.nil_append]
    rw [nameUses_cons_identifier, opened, nameUses_cons_other _ opening.known (by decide),
      inner.nameUses_append closing rest]
    rfl

theorem Arguments.nameUses_append : (arguments : Arguments) → (closing : Terminal .closeParen) →
    (rest : List Token) → nameUses (arguments.tokens ++ closing.token :: rest) =
      Node.nameUsesAll arguments.nodes ++ nameUses rest
  | .none, closing, rest => nameUses_cons_other rest closing.known (by decide)
  | .some first others, closing, rest => by
    rw [Arguments.tokens, List.append_assoc,
      first.nameUses_append _ (guarded_moreArguments others closing rest),
      others.nameUses_append closing rest, ← List.append_assoc]
    rfl

theorem MoreArguments.nameUses_append : (arguments : MoreArguments) →
    (closing : Terminal .closeParen) → (rest : List Token) →
    nameUses (arguments.tokens ++ closing.token :: rest) =
      Node.nameUsesAll arguments.nodes ++ nameUses rest
  | .nil, closing, rest => nameUses_cons_other rest closing.known (by decide)
  | .cons comma next others, closing, rest => by
    rw [MoreArguments.tokens, List.cons_append, List.append_assoc,
      nameUses_cons_other _ comma.known (by decide),
      next.nameUses_append _ (guarded_moreArguments others closing rest),
      others.nameUses_append closing rest, ← List.append_assoc]
    rfl

end

theorem pipedArguments_nameUses (others : List PipedArgument) (left : Node)
    (closing : Terminal .closeHole) (rest : List Token) :
    left.nameUses ++ nameUses (others.flatMap PipedArgument.tokens ++ closing.token :: rest) =
      (others.foldl PipedArgument.node left).nameUses ++ nameUses rest := by
  induction others generalizing left with
  | nil =>
    rw [List.flatMap_nil, List.nil_append, nameUses_cons_other rest closing.known (by decide)]
    rfl
  | cons piped others ih =>
    rw [List.flatMap_cons, PipedArgument.tokens, List.cons_append, List.cons_append,
      List.append_assoc, nameUses_cons_other _ piped.mark.known (by decide),
      piped.target.nameUses_append _ (guarded_pipedArguments others closing rest),
      ← List.append_assoc, List.foldl_cons]
    exact ih (.pipe left piped.target.node piped.mark.token.position)

theorem Part.nameUses_append (part : Part) (rest : List Token) :
    nameUses (part.tokens ++ rest) = part.node.nameUses ++ nameUses rest := by
  cases part with
  | text word => exact nameUses_cons_other rest word.known (by decide)
  | hole inner =>
    obtain ⟨opening, ⟨first, others⟩, closing⟩ := inner
    simp only [Part.tokens, Hole.tokens, Chain.tokens, List.cons_append, List.append_assoc,
      List.nil_append]
    rw [nameUses_cons_other _ opening.known (by decide),
      first.nameUses_append _ (guarded_pipedArguments others closing rest),
      pipedArguments_nameUses]
    rfl

theorem parts_nameUses (parts : List Part) (rest : List Token) :
    nameUses (parts.flatMap Part.tokens ++ rest) =
      Node.nameUsesAll (parts.map Part.node) ++ nameUses rest := by
  induction parts with
  | nil => rfl
  | cons part others ih =>
    rw [List.flatMap_cons, List.append_assoc, part.nameUses_append, ih, ← List.append_assoc]
    rfl

theorem line_nameUses (parts : List Part) (following : Token) :
    (line parts following).toNode.nameUses = Node.nameUsesAll (parts.map Part.node) := by
  cases parts with
  | nil => rfl
  | cons part others =>
    obtain ⟨first, inner, tokens, -⟩ := part.exists_cons
    rw [line, List.flatMap_cons, tokens]
    rfl

theorem nextLines_nameUses (others : List NextLine) (last : Terminal .endOfInput) :
    nameUses (others.flatMap NextLine.tokens ++ [last.token]) =
      Node.nameUsesAll ((nextLines last.token others).map Line.toNode) := by
  induction others with
  | nil => exact nameUses_cons_other [] last.known (by decide)
  | cons next others ih =>
    rw [List.flatMap_cons, NextLine.tokens, List.cons_append, List.cons_append, List.append_assoc,
      nameUses_cons_other _ next.mark.known (by decide), parts_nameUses, ih, nextLines,
      List.map_cons, Node.nameUsesAll, line_nameUses]

/-- The names in the tree are those among the tokens, called where a parenthesis opens. -/
theorem Derivation.nameUses_template (derivation : Derivation) :
    derivation.template.nameUses = nameUses derivation.tokens := by
  rw [Derivation.tokens, parts_nameUses, nextLines_nameUses, ← line_nameUses _
    (following derivation.others derivation.last.token)]
  rfl

end Grammar

end Stencil
