import Stencil.Proofs.Concatenation.Scanning
import Stencil.Proofs.Concatenation.Tree
import Stencil.Proofs.Grammar.Recognition
import Stencil.Proofs.Parser.Bound

/-! Parsing the tokens of two texts at once. The tokens of the first text are known to be derived, those
of the second may be refused; either way the parser does with the second what it does with it alone. -/

namespace Stencil

open Grammar

/-- Texts among tokens have characters. -/
def TextsShown (tokens : List Token) : Prop :=
  ∀ token ∈ tokens, token.kind = .text → token.lexeme ≠ ""

namespace Grammar

/-- All tokens of a template but the last one. -/
def Derivation.front (derivation : Derivation) : List Token :=
  derivation.first.flatMap Part.tokens ++ derivation.others.flatMap NextLine.tokens

theorem Derivation.tokens_eq_front (derivation : Derivation) :
    derivation.tokens = derivation.front ++ [derivation.last.token] := by
  rw [tokens, front, List.append_assoc]

/-- An expression is no text. -/
theorem Chain.node_ne_text (chain : Chain) (value : String) (position : Position) :
    chain.node ≠ .text value position := by
  obtain ⟨first, others⟩ := chain
  have expressions : ∀ left : Node, left ≠ .text value position →
      others.foldl PipedArgument.node left ≠ .text value position := by
    induction others with
    | nil => exact fun left hole => hole
    | cons piped others ih => exact fun left _ => ih _ Node.noConfusion
  apply expressions
  cases first <;> exact Node.noConfusion

theorem Part.isEmptyText_node (part : Part) (shown : TextsShown part.tokens) :
    part.node.isEmptyText = false := by
  cases part with
  | text word => exact beq_false_of_ne (shown word.token List.mem_cons_self word.known)
  | hole inner => exact Node.isEmptyText_of_not_text inner.chain.node_ne_text

theorem isEmptyText_map_node {parts : List Part} (shown : TextsShown (parts.flatMap Part.tokens)) :
    ∀ node ∈ parts.map Part.node, node.isEmptyText = false := by
  intro node member
  obtain ⟨part, among, rfl⟩ := List.mem_map.mp member
  apply part.isEmptyText_node
  intro token inPart
  exact shown token (List.mem_flatMap.mpr ⟨part, among, inPart⟩)

end Grammar

namespace Eager

/-! ### Parts of a line -/

/-- What is read from tokens that do not begin with a text does not begin with one either. -/
theorem fuse_of_parts {depth : Nat} {tokens rest : List Token} {nodes : List Node}
    (done : parts depth tokens = .read nodes rest) (hole : ∀ token ∈ tokens.head?, token.kind ≠ .text)
    (value : String) (position : Position) :
    ∀ node ∈ nodes.head?, (Node.text value position).fuse node = none := by
  obtain ⟨derivation, -, -, -, same, rfl⟩ := parts_sound depth done
  cases derivation with
  | nil => simp
  | cons part others =>
    rintro node ⟨⟩
    cases part with
    | text word =>
      rw [same] at hole
      exact absurd word.known (hole word.token rfl)
    | hole inner => exact Node.fuse_not_text inner.chain.node_ne_text _

/-- A text before tokens, which goes on in them if they begin with a text. -/
theorem parts_text (word : Terminal .text) (tokens : List Token) {left right : Nat}
    (leftEnough : tokens.length < left) (rightEnough : tokens.length < right) :
    parts (left + 1) (seamed Token.fuse [word.token] tokens) =
      (parts right tokens).map
        (seamed Node.fuse [.text word.token.lexeme word.token.position]) := by
  by_cases hole : ∀ token ∈ tokens.head?, token.kind ≠ .text
  · have apart : ∀ token ∈ tokens.head?, word.token.fuse token = none := fun token first =>
      if_neg fun both => hole token first both.2
    rw [seamed_singleton_of_apart apart]
    simp only [parts, word.known]
    rw [parts_bound leftEnough rightEnough]
    apply Outcome.map_congr
    intro nodes rest done
    rw [seamed_singleton_of_apart (fuse_of_parts done hole _ _)]
  · simp only [not_forall, not_not] at hole
    obtain ⟨next, first, literal⟩ := hole
    obtain ⟨more, rfl⟩ := List.head?_eq_some_iff.mp first
    obtain ⟨right, rfl⟩ := Nat.exists_eq_add_one.mpr (Nat.zero_lt_of_lt rightEnough)
    rw [List.length_cons] at leftEnough rightEnough
    have fuses : word.token.fuse next =
        some ⟨.text, word.token.lexeme ++ next.lexeme, word.token.position⟩ :=
      if_pos ⟨word.known, literal⟩
    rw [seamed_of_fuses fuses]
    have others : parts left more = parts right more := parts_bound (by omega) (by omega)
    simp only [parts, literal]
    rw [others, Outcome.map_map]
    apply Outcome.map_congr
    intro nodes rest _
    exact (seamed_of_fuses rfl nodes).symm

/-- The parts of a line and the tokens behind them, where a text at the end may go on. -/
theorem parts_seamed (derivation : List Part) (tokens : List Token) (left right : Nat)
    (leftEnough : (derivation.flatMap Part.tokens).length + tokens.length < left)
    (rightEnough : tokens.length < right) :
    parts left (seamed Token.fuse (derivation.flatMap Part.tokens) tokens) =
      (parts right tokens).map (seamed Node.fuse (derivation.map Part.node)) := by
  induction derivation generalizing left with
  | nil =>
    have same : seamed Node.fuse [] = id := funext fun nodes => seamed_nil_left nodes
    rw [List.flatMap_nil, seamed_nil_left, List.map_nil, same, Outcome.map_id]
    exact parts_bound (by simpa using leftEnough) rightEnough
  | cons part others ih =>
    obtain ⟨depth, rfl⟩ := Nat.exists_eq_add_one.mpr (Nat.zero_lt_of_lt leftEnough)
    cases part with
    | hole inner =>
      have tokensApart : ∀ last ∈ inner.tokens.getLast?, ∀ next, last.fuse next = none := by
        rw [Hole.tokens, ← List.cons_append, List.getLast?_concat]
        rintro last ⟨⟩
        apply Token.fuse_of_kind_ne_text
        rw [inner.closing.known]
        decide
      have nodeApart : ∀ next, inner.chain.node.fuse next = none :=
        Node.fuse_of_not_text inner.chain.node_ne_text
      simp only [List.flatMap_cons, Part.tokens, Hole.tokens, List.length_append, List.length_cons]
        at leftEnough
      have readChain := chain_complete inner.chain depth inner.closing
        (seamed Token.fuse (others.flatMap Part.tokens) tokens) (by omega)
      have later := ih depth (by omega)
      rw [List.flatMap_cons, Part.tokens, seamed_append_of_apart tokensApart, Hole.tokens]
      simp only [List.cons_append, List.append_assoc, List.nil_append, parts, inner.opening.known,
        readChain, Outcome.read_andThen, expect_cons inner.closing.known, later, Outcome.map_map]
      apply Outcome.map_congr
      intro nodes rest _
      exact (seamed_cons_of_apart nodeApart _ nodes).symm
    | text word =>
      simp only [List.flatMap_cons, Part.tokens, List.length_append, List.length_cons,
        List.length_nil] at leftEnough
      cases others with
      | nil => exact parts_text word tokens (by omega) rightEnough
      | cons second others =>
        obtain ⟨first, inner, spelled, -⟩ := second.exists_cons
        have more : (second :: others).flatMap Part.tokens ≠ [] := by
          rw [List.flatMap_cons, spelled]
          exact List.cons_ne_nil _ _
        have later := ih depth (by omega)
        rw [List.flatMap_cons, Part.tokens, List.singleton_append, seamed_cons more]
        simp only [parts, word.known, later, Outcome.map_map]
        apply Outcome.map_congr
        intro nodes rest _
        exact (seamed_cons (List.cons_ne_nil _ _) _ nodes).symm

/-! ### Lines -/

/-- The first token stays where it is, also if it takes in another one. -/
theorem exists_seamed_eq_cons (first : Token) (others second : List Token) :
    ∃ token rest, seamed Token.fuse (first :: others) second = token :: rest ∧
      token.position = first.position := by
  cases others with
  | cons next more => exact ⟨first, _, seamed_cons (List.cons_ne_nil _ _) first second, rfl⟩
  | nil =>
    cases second with
    | nil => exact ⟨first, [], rfl, rfl⟩
    | cons next rest =>
      by_cases literal : first.kind = .text ∧ next.kind = .text
      · exact ⟨⟨.text, _, first.position⟩, rest, seamed_of_fuses (if_pos literal) rest, rfl⟩
      · refine ⟨first, next :: rest, seamed_singleton_of_apart ?_, rfl⟩
        rintro token ⟨⟩
        exact if_neg literal

/-- A line starts where the first of its tokens stands, or the one behind it. -/
theorem exists_start (derivation : List Part) {following start : Token}
    (place : following.position = start.position) (more : List Token) :
    ∃ token rest, seamed Token.fuse (derivation.flatMap Part.tokens) (start :: more) =
      token :: rest ∧
      Grammar.line derivation following =
        Parser.lineOf token.position (derivation.map Part.node) := by
  cases derivation with
  | nil =>
    refine ⟨start, more, seamed_nil_left _, ?_⟩
    rw [← place]
    rfl
  | cons part others =>
    obtain ⟨first, inner, spelled, -⟩ := part.exists_cons
    obtain ⟨token, rest, same, position⟩ :=
      exists_seamed_eq_cons first (inner ++ others.flatMap Part.tokens) (start :: more)
    refine ⟨token, rest, ?_, ?_⟩
    · rw [List.flatMap_cons, spelled, List.cons_append, same]
    · rw [position, Grammar.line, List.flatMap_cons, spelled]
      rfl

/-- The last line goes on with the line that is read next, whether that is read or refused. -/
theorem line_seamed (derivation : List Part) {following start : Token}
    (place : following.position = start.position) (more : List Token) {depth : Nat}
    (enough : (derivation.flatMap Part.tokens).length + (start :: more).length < depth)
    (shown : TextsShown (derivation.flatMap Part.tokens)) (shownMore : TextsShown (start :: more)) :
    line depth (seamed Token.fuse (derivation.flatMap Part.tokens) (start :: more)) =
      (line depth (start :: more)).map (Grammar.line derivation following).joined := by
  obtain ⟨token, rest, same, begins⟩ := exists_start derivation place more
  have read := parts_seamed derivation (start :: more) depth depth enough (by omega)
  rw [same] at read ⊢
  rw [line, line, read, Outcome.map_map, Outcome.map_map]
  apply Outcome.map_congr
  intro nodes others done
  obtain ⟨second, -, -, -, spelled, rfl⟩ := parts_sound depth done
  have shownSecond : TextsShown (second.flatMap Part.tokens) := by
    intro token member
    apply shownMore token
    rw [spelled]
    exact List.mem_append_left _ member
  rw [begins, Line.joined, position_lineOf, content_lineOf (isEmptyText_map_node shown),
    content_lineOf (isEmptyText_map_node shownSecond)]

/-- Lines in front of others, where the last one goes on with the first of the others. -/
theorem lines_seamed (derivation : List Part) (others : List NextLine) {last start : Token}
    (place : last.position = start.position) (more : List Token) (left right : Nat)
    (leftEnough : (derivation.flatMap Part.tokens ++ others.flatMap NextLine.tokens).length +
      (start :: more).length < left)
    (rightEnough : (start :: more).length < right)
    (shown : TextsShown (derivation.flatMap Part.tokens ++ others.flatMap NextLine.tokens))
    (shownMore : TextsShown (start :: more)) :
    lines left (seamed Token.fuse
        (derivation.flatMap Part.tokens ++ others.flatMap NextLine.tokens) (start :: more)) =
      (lines right (start :: more)).map (joinedLines
        (Grammar.line derivation (following others last) :: nextLines last others)) := by
  induction others generalizing derivation left with
  | nil =>
    simp only [List.flatMap_nil, List.append_nil] at leftEnough shown ⊢
    have read := line_seamed derivation place more leftEnough shown shownMore
    have same : lines right (start :: more) = lines left (start :: more) :=
      lines_bound rightEnough (by omega)
    rw [same, lines, lines, read, Outcome.map_andThen, Outcome.andThen_map]
    congr 1
    funext first rest
    rw [Outcome.map_map]
    rfl
  | cons next others ih =>
    obtain ⟨depth, rfl⟩ := Nat.exists_eq_add_one.mpr (Nat.zero_lt_of_lt leftEnough)
    simp only [List.flatMap_cons, NextLine.tokens, List.length_append, List.length_cons]
      at leftEnough
    have front : derivation.flatMap Part.tokens ++ (next :: others).flatMap NextLine.tokens =
        (derivation.flatMap Part.tokens ++ [next.mark.token]) ++
          (next.parts.flatMap Part.tokens ++ others.flatMap NextLine.tokens) := by
      simp [NextLine.tokens]
    have apart : ∀ token ∈ (derivation.flatMap Part.tokens ++ [next.mark.token]).getLast?,
        ∀ following, token.fuse following = none := by
      rw [List.getLast?_concat]
      rintro token ⟨⟩
      apply Token.fuse_of_kind_ne_text
      rw [next.mark.known]
      decide
    rw [front] at shown ⊢
    have later := ih next.parts depth
      (by rw [List.length_append, List.length_cons]; omega)
      (fun token member => shown token (List.mem_append_right _ member))
    have readLine := line_complete derivation (depth + 1)
      (seamed Token.fuse (next.parts.flatMap Part.tokens ++ others.flatMap NextLine.tokens)
        (start :: more)) (.inl next.mark.known) (by omega)
    rw [seamed_append_of_apart apart, List.append_assoc, List.singleton_append, lines, readLine,
      Outcome.read_andThen, moreLines, if_pos next.mark.known]
    rw [← lines, later, Outcome.map_map]
    apply Outcome.map_congr
    intro found rest _
    exact (seamed_cons (List.cons_ne_nil _ _) _ found).symm

/-- The tokens of a template in front of the tokens of another one. -/
theorem parse_seamed (derivation : Derivation) {start : Token} {more : List Token}
    (place : derivation.last.token.position = start.position)
    (shown : TextsShown derivation.front) (shownMore : TextsShown (start :: more)) :
    parse (seamed Token.fuse derivation.front (start :: more)) =
      (parse (start :: more)).map derivation.template.joined := by
  have length : (seamed Token.fuse derivation.front (start :: more)).length ≤
      derivation.front.length + (start :: more).length := length_seamed_le _ _
  obtain ⟨depth, enough⟩ : ∃ depth, derivation.front.length + (start :: more).length < depth :=
    ⟨_, Nat.lt_succ_self _⟩
  have read := lines_seamed derivation.first derivation.others place more depth depth enough
    (by omega) shown shownMore
  have shorter : (start :: more).length < depth := by omega
  rw [← Derivation.front] at read
  rw [parse_eq_template (Nat.lt_of_le_of_lt length enough), parse_eq_template shorter,
    ← Outcome.toExcept_map, template_eq_lines, template_eq_lines, Outcome.andThen_map, read,
    Outcome.map_andThen]
  congr 2
  funext found rest
  rw [Outcome.map_map]
  rfl

end Eager

end Stencil
