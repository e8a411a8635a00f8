import Stencil.Proofs.Grammar.Derivation
import Stencil.Proofs.Token.Order

/-! Landmarks of a tree: what the text shows at the place of a node, a word or a bar. They are those of
the tokens, in their order, with one for the empty text of each line that has no tokens. -/

namespace Stencil

inductive Sign where
  | text (value : String)
  | constant (value : Value)
  | name (name : String)
  | pipe

/-- A sign where it stands. -/
structure Landmark where
  sign : Sign
  position : Position

mutual

/-- The landmarks in a tree in the order of its text: the left side of a pipe, its bar and its right
side, the name of a call and its arguments. -/
def Node.landmarks : Node → List Landmark
  | .text value position => [⟨.text value, position⟩]
  | .constant value position => [⟨.constant value, position⟩]
  | .property name position => [⟨.name name, position⟩]
  | .call name arguments position => ⟨.name name, position⟩ :: Node.landmarksAll arguments
  | .pipe left right position => left.landmarks ++ ⟨.pipe, position⟩ :: right.landmarks
  | .line parts _ => Node.landmarksAll parts
  | .template lines => Node.landmarksAll lines
  | .bare => []

def Node.landmarksAll : List Node → List Landmark
  | [] => []
  | node :: rest => node.landmarks ++ Node.landmarksAll rest

end

def Template.landmarks (template : Template) : List Landmark := template.toNode.landmarks

/-! ### Tokens -/

def TokenKind.endsLine : TokenKind → Bool
  | lineBreak | endOfInput => true
  | _ => false

/-- What a token stands for in a tree. A line that ends where it starts has an empty text there. -/
def Token.sign? (starting : Bool) (token : Token) : Option Sign :=
  match token.kind with
  | .text => some (.text token.lexeme)
  | .number => some (.constant (.integer (Number.ofDigits token.lexeme.toList)))
  | .string => some (.constant (.text (Literal.decode token.lexeme)))
  | .identifier => some (.name token.lexeme)
  | .pipe => some .pipe
  | .lineBreak | .endOfInput => if starting then some (.text "") else none
  | _ => none

/-- The landmarks of tokens, the first of which starts a line or not. -/
def landmarks (starting : Bool) : List Token → List Landmark
  | [] => []
  | token :: rest =>
    let others := landmarks token.kind.endsLine rest
    match token.sign? starting with
    | some sign => ⟨sign, token.position⟩ :: others
    | none => others

/-- A landmark that is read from a token. -/
def Token.Shows (token : Token) (landmark : Landmark) : Prop :=
  ∃ starting, token.sign? starting = some landmark.sign ∧ landmark.position = token.position

theorem exists_shows {starting : Bool} {tokens : List Token} {landmark : Landmark}
    (member : landmark ∈ landmarks starting tokens) : ∃ token ∈ tokens, token.Shows landmark := by
  induction tokens generalizing starting with
  | nil => cases member
  | cons token rest ih =>
    have among : landmark ∈ landmarks token.kind.endsLine rest →
        ∃ found ∈ token :: rest, found.Shows landmark := by
      intro later
      obtain ⟨found, member, shows⟩ := ih later
      exact ⟨found, List.mem_cons_of_mem _ member, shows⟩
    rw [landmarks] at member
    split at member
    next sign shown =>
      rcases List.mem_cons.mp member with rfl | later
      · exact ⟨token, List.mem_cons_self, starting, shown, rfl⟩
      · exact among later
    next => exact among member

/-- No two landmarks are read from one token, and they stand in the order of the tokens. -/
theorem sublist_landmarks (starting : Bool) (tokens : List Token) :
    ((landmarks starting tokens).map Landmark.position).Sublist (tokens.map Token.position) := by
  induction tokens generalizing starting with
  | nil => exact .slnil
  | cons token rest ih =>
    rw [landmarks]
    split
    next => exact (ih _).cons_cons _
    next => exact (ih _).cons _

theorem pairwise_landmarks {tokens : List Token}
    (ordered : tokens.Pairwise fun first second => first.position.offset < second.position.offset)
    (starting : Bool) : (landmarks starting tokens).Pairwise fun first second =>
      first.position.offset < second.position.offset := by
  have offsets : ((landmarks starting tokens).map (·.position.offset)).Sublist
      (tokens.map (·.position.offset)) := by
    have kept := (sublist_landmarks starting tokens).map Position.offset
    rwa [List.map_map, List.map_map] at kept
  exact List.pairwise_map.mp ((List.pairwise_map.mpr ordered).sublist offsets)

/-! ### Derivations -/

namespace Grammar

mutual

theorem Argument.landmarks_append : (argument : Argument) → (rest : List Token) →
    landmarks false (argument.tokens ++ rest) = argument.node.landmarks ++ landmarks false rest
  | .number ⟨⟨_, lexeme, position⟩, rfl⟩, rest => rfl
  | .string ⟨⟨_, lexeme, position⟩, rfl⟩, rest => rfl
  | .property ⟨⟨_, lexeme, position⟩, rfl⟩, rest => rfl
  | .call ⟨⟨_, name, position⟩, rfl⟩ ⟨⟨_, _, _⟩, rfl⟩ inner ⟨⟨_, mark, place⟩, rfl⟩, rest => by
    have arguments := inner.landmarks_append (⟨.closeParen, mark, place⟩ :: rest)
    simp only [Argument.tokens, List.cons_append, List.append_assoc, List.nil_append]
    exact congrArg (⟨.name name, position⟩ :: ·) arguments

theorem Arguments.landmarks_append : (arguments : Arguments) → (rest : List Token) →
    landmarks false (arguments.tokens ++ rest) =
      Node.landmarksAll arguments.nodes ++ landmarks false rest
  | .none, rest => rfl
  | .some first others, rest => by
    rw [Arguments.tokens, List.append_assoc, first.landmarks_append, others.landmarks_append,
      ← List.append_assoc]
    rfl

theorem MoreArguments.landmarks_append : (arguments : MoreArguments) → (rest : List Token) →
    landmarks false (arguments.tokens ++ rest) =
      Node.landmarksAll arguments.nodes ++ landmarks false rest
  | .nil, rest => rfl
  | .cons ⟨⟨_, _, _⟩, rfl⟩ next others, rest => by
    rw [MoreArguments.tokens, List.cons_append, List.append_assoc]
    refine (next.landmarks_append _).trans ?_
    rw [others.landmarks_append, ← List.append_assoc]
    rfl

end

theorem PipedArgument.landmarks_append : (piped : PipedArgument) → (left : Node) →
    (rest : List Token) → left.landmarks ++ landmarks false (piped.tokens ++ rest) =
      (piped.node left).landmarks ++ landmarks false rest
  | ⟨⟨⟨_, _, position⟩, rfl⟩, target⟩, left, rest =>
    calc left.landmarks ++ ⟨.pipe, position⟩ :: landmarks false (target.tokens ++ rest)
        = left.landmarks ++ ⟨.pipe, position⟩ :: (target.node.landmarks ++ landmarks false rest) := by
          rw [target.landmarks_append]
      _ = (left.landmarks ++ ⟨.pipe, position⟩ :: target.node.landmarks) ++ landmarks false rest := by
          rw [List.append_assoc, List.cons_append]

theorem landmarks_foldl (others : List PipedArgument) (left : Node) (rest : List Token) :
    left.landmarks ++ landmarks false (others.flatMap PipedArgument.tokens ++ rest) =
      (others.foldl PipedArgument.node left).landmarks ++ landmarks false rest := by
  induction others generalizing left with
  | nil => rfl
  | cons piped others ih =>
    rw [List.flatMap_cons, List.append_assoc, piped.landmarks_append, ih, List.foldl_cons]

theorem Chain.landmarks_append (chain : Chain) (rest : List Token) :
    landmarks false (chain.tokens ++ rest) = chain.node.landmarks ++ landmarks false rest := by
  rw [Chain.tokens, List.append_assoc, chain.first.landmarks_append, landmarks_foldl]
  rfl

theorem Part.landmarks_append : (part : Part) → (starting : Bool) → (rest : List Token) →
    landmarks starting (part.tokens ++ rest) = part.node.landmarks ++ landmarks false rest
  | .text ⟨⟨_, _, _⟩, rfl⟩, _, _ => rfl
  | .hole ⟨⟨⟨_, _, _⟩, rfl⟩, chain, ⟨⟨_, mark, place⟩, rfl⟩⟩, starting, rest => by
    rw [Part.tokens, Hole.tokens, List.cons_append, List.append_assoc]
    exact chain.landmarks_append (⟨.closeHole, mark, place⟩ :: rest)

theorem landmarks_parts (parts : List Part) (rest : List Token) :
    landmarks false (parts.flatMap Part.tokens ++ rest) =
      Node.landmarksAll (parts.map Part.node) ++ landmarks false rest := by
  induction parts with
  | nil => rfl
  | cons part others ih =>
    rw [List.flatMap_cons, List.append_assoc, part.landmarks_append, ih, ← List.append_assoc]
    rfl

/-- The landmarks of a line and of the token behind it, which is one itself if the line is empty. -/
theorem landmarks_line (parts : List Part) {following : Token} (ends : EndsLine following)
    (rest : List Token) : landmarks true (parts.flatMap Part.tokens ++ following :: rest) =
      (line parts following).toNode.landmarks ++ landmarks true rest := by
  obtain ⟨kind, lexeme, position⟩ := following
  cases parts with
  | nil => rcases ends with rfl | rfl <;> rfl
  | cons part others =>
    obtain ⟨first, inner, tokens, -⟩ := part.exists_cons
    have nodes : (line (part :: others) ⟨kind, lexeme, position⟩).toNode.landmarks =
        Node.landmarksAll ((part :: others).map Part.node) := by
      rw [line, List.flatMap_cons, tokens]
      rfl
    rw [nodes, List.flatMap_cons, List.append_assoc, part.landmarks_append, landmarks_parts,
      List.map_cons, Node.landmarksAll, List.append_assoc]
    rcases ends with rfl | rfl <;> rfl

theorem landmarks_lines (others : List NextLine) (parts : List Part) (last : Terminal .endOfInput) :
    landmarks true
        (parts.flatMap Part.tokens ++ (others.flatMap NextLine.tokens ++ [last.token])) =
      (line parts (following others last.token)).toNode.landmarks ++
        Node.landmarksAll ((nextLines last.token others).map Line.toNode) := by
  induction others generalizing parts with
  | nil => exact landmarks_line parts (.inr last.known) []
  | cons next others ih =>
    rw [List.flatMap_cons, NextLine.tokens, List.cons_append, List.cons_append, List.append_assoc,
      landmarks_line parts (.inl next.mark.known), ih next.parts]
    rfl

/-- The landmarks of a tree are those of its tokens. -/
theorem Derivation.landmarks_template (derivation : Derivation) :
    derivation.template.landmarks = landmarks true derivation.tokens :=
  (landmarks_lines derivation.others derivation.first derivation.last).symm

end Grammar

end Stencil
