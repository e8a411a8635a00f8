import Stencil.Proofs.Grammar.Derivation
import Stencil.Proofs.Parser.Eager

/-! The parser of complete tokens recognizes the grammar. What it reads has a derivation with the
tree that it returns, and it reads every derivation that is followed by a token which cannot
belong to it. -/

namespace Stencil.Eager

open Grammar

/-! ### What is read has a derivation -/

mutual

theorem argument_sound : (depth : Nat) → {tokens rest : List Token} → {node : Node} →
    argument depth tokens = .read node rest →
    ∃ derivation : Argument, tokens = derivation.tokens ++ rest ∧ derivation.node = node
  | depth + 1, token :: more, rest, node, done => by
    simp only [argument] at done
    split at done
    · rename_i kind
      cases done
      exact ⟨.number ⟨token, kind⟩, rfl, rfl⟩
    · rename_i kind
      cases done
      exact ⟨.string ⟨token, kind⟩, rfl, rfl⟩
    · rename_i kind
      split at done
      · cases done
      · rename_i opening inner
        split at done
        · rename_i opened
          obtain ⟨nested, closing, same, node⟩ := call_sound depth done
          refine ⟨.call ⟨token, kind⟩ ⟨opening, opened⟩ nested closing, ?_, node⟩
          simp [Argument.tokens, same]
        · cases done
          exact ⟨.property ⟨token, kind⟩, rfl, rfl⟩
    · cases done

theorem call_sound : (depth : Nat) → {name : Token} → {tokens rest : List Token} →
    {node : Node} → call depth name tokens = .read node rest →
    ∃ (inner : Arguments) (closing : Terminal .closeParen),
      tokens = inner.tokens ++ closing.token :: rest ∧
        Node.call name.lexeme inner.nodes name.position = node
  | depth + 1, name, token :: more, rest, node, done => by
    simp only [call] at done
    split at done
    · obtain ⟨first, middle, read, done⟩ := Outcome.read_of_andThen done
      obtain ⟨others, after, readOthers, done⟩ := Outcome.read_of_andThen done
      obtain ⟨closing, readClosing, node⟩ := Outcome.read_of_map done
      obtain ⟨first, same, rfl⟩ := argument_sound depth read
      obtain ⟨others, sameOthers, rfl⟩ := moreArguments_sound depth readOthers
      obtain ⟨sameClosing, kind⟩ := cons_of_expect readClosing
      refine ⟨.some first others, ⟨closing, kind⟩, ?_, node⟩
      rw [same, sameOthers, sameClosing, Arguments.tokens, List.append_assoc]
    · obtain ⟨closing, read, node⟩ := Outcome.read_of_map done
      obtain ⟨same, kind⟩ := cons_of_expect read
      exact ⟨.none, ⟨closing, kind⟩, same, node⟩

theorem moreArguments_sound : (depth : Nat) → {tokens rest : List Token} → {nodes : List Node} →
    moreArguments depth tokens = .read nodes rest →
    ∃ derivation : MoreArguments, tokens = derivation.tokens ++ rest ∧ derivation.nodes = nodes
  | depth + 1, token :: more, rest, nodes, done => by
    simp only [moreArguments] at done
    split at done
    · rename_i kind
      obtain ⟨next, middle, read, done⟩ := Outcome.read_of_andThen done
      obtain ⟨others, readOthers, nodes⟩ := Outcome.read_of_map done
      obtain ⟨next, same, rfl⟩ := argument_sound depth read
      obtain ⟨others, sameOthers, rfl⟩ := moreArguments_sound depth readOthers
      refine ⟨.cons ⟨token, kind⟩ next others, ?_, nodes⟩
      simp [MoreArguments.tokens, same, sameOthers]
    · cases done
      exact ⟨.nil, rfl, rfl⟩

end

theorem pipes_sound (depth : Nat) {left node : Node} {tokens rest : List Token}
    (done : pipes depth left tokens = .read node rest) :
    ∃ others : List PipedArgument, tokens = others.flatMap PipedArgument.tokens ++ rest ∧
      others.foldl PipedArgument.node left = node := by
  induction depth generalizing left tokens with
  | zero => cases done
  | succ depth ih =>
    cases tokens with
    | nil => cases done
    | cons token more =>
      simp only [pipes] at done
      split at done
      · rename_i kind
        obtain ⟨right, middle, read, done⟩ := Outcome.read_of_andThen done
        obtain ⟨target, same, rfl⟩ := argument_sound depth read
        obtain ⟨others, sameOthers, node⟩ := ih done
        refine ⟨⟨⟨token, kind⟩, target⟩ :: others, ?_, node⟩
        simp [PipedArgument.tokens, same, sameOthers]
      · cases done
        exact ⟨[], rfl, rfl⟩

theorem chain_sound {depth : Nat} {node : Node} {tokens rest : List Token}
    (done : chain depth tokens = .read node rest) :
    ∃ derivation : Chain, tokens = derivation.tokens ++ rest ∧ derivation.node = node := by
  obtain ⟨first, middle, read, done⟩ := Outcome.read_of_andThen done
  obtain ⟨first, same, rfl⟩ := argument_sound depth read
  obtain ⟨others, sameOthers, node⟩ := pipes_sound depth done
  exact ⟨⟨first, others⟩, by rw [same, sameOthers, Chain.tokens, List.append_assoc], node⟩

theorem parts_sound (depth : Nat) {nodes : List Node} {tokens rest : List Token}
    (done : parts depth tokens = .read nodes rest) :
    ∃ (derivation : List Part) (following : Token) (more : List Token),
      rest = following :: more ∧ tokens = derivation.flatMap Part.tokens ++ rest ∧
      derivation.map Part.node = nodes := by
  induction depth generalizing tokens nodes with
  | zero => cases done
  | succ depth ih =>
    cases tokens with
    | nil => cases done
    | cons token more =>
      simp only [parts] at done
      split at done
      · rename_i kind
        obtain ⟨others, read, node⟩ := Outcome.read_of_map done
        obtain ⟨parts, following, last, rest, same, nodes⟩ := ih read
        refine ⟨.text ⟨token, kind⟩ :: parts, following, last, rest, ?_, ?_⟩
        · simp [Part.tokens, same]
        · rw [List.map_cons, nodes, ← node]
          rfl
      · rename_i kind
        obtain ⟨expression, middle, readChain, done⟩ := Outcome.read_of_andThen done
        obtain ⟨closing, after, readClosing, done⟩ := Outcome.read_of_andThen done
        obtain ⟨others, read, node⟩ := Outcome.read_of_map done
        obtain ⟨chain, sameChain, rfl⟩ := chain_sound readChain
        obtain ⟨sameClosing, closed⟩ := cons_of_expect readClosing
        obtain ⟨parts, following, last, rest, same, nodes⟩ := ih read
        refine ⟨.hole ⟨⟨token, kind⟩, chain, ⟨closing, closed⟩⟩ :: parts, following, last, rest,
          ?_, ?_⟩
        · simp [Part.tokens, Hole.tokens, sameChain, sameClosing, same]
        · rw [List.map_cons, nodes, ← node]
          rfl
      · cases done
        exact ⟨[], token, more, rfl, rfl, rfl⟩

theorem line_sound {depth : Nat} {found : Line} {tokens rest : List Token}
    (done : line depth tokens = .read found rest) :
    ∃ (parts : List Part) (following : Token) (more : List Token), rest = following :: more ∧
      tokens = parts.flatMap Part.tokens ++ rest ∧ Grammar.line parts following = found := by
  cases tokens with
  | nil => cases done
  | cons token tokens =>
    obtain ⟨nodes, read, found⟩ := Outcome.read_of_map done
    obtain ⟨parts, following, more, rest, same, nodes⟩ := parts_sound depth read
    refine ⟨parts, following, more, rest, same, ?_⟩
    rw [← found, ← nodes, Grammar.line]
    cases parts with
    | nil =>
      rw [rest] at same
      cases same
      rfl
    | cons part others =>
      obtain ⟨first, inner, tokens, -⟩ := part.exists_cons
      rw [List.flatMap_cons, tokens, List.cons_append, List.cons_append] at same
      cases same
      rw [List.flatMap_cons, tokens]
      rfl

theorem moreLines_sound (depth : Nat) {found : List Line} {tokens rest : List Token}
    (done : moreLines depth tokens = .read found rest) :
    ∃ (others : List NextLine) (last : Token) (more : List Token), rest = last :: more ∧
      tokens = others.flatMap NextLine.tokens ++ rest ∧ nextLines last others = found := by
  induction depth generalizing tokens found with
  | zero => cases done
  | succ depth ih =>
    cases tokens with
    | nil => cases done
    | cons token tokens =>
      simp only [moreLines] at done
      split at done
      · rename_i kind
        obtain ⟨first, middle, read, done⟩ := Outcome.read_of_andThen done
        obtain ⟨others, readOthers, found⟩ := Outcome.read_of_map done
        obtain ⟨parts, behind, more, rest, same, rfl⟩ := line_sound read
        obtain ⟨others, last, behindLast, ends, sameOthers, rfl⟩ := ih readOthers
        refine ⟨⟨⟨token, kind⟩, parts⟩ :: others, last, behindLast, ends, ?_, ?_⟩
        · simp [NextLine.tokens, same, sameOthers]
        · rw [rest, ends] at sameOthers
          rw [nextLines, ← eq_following sameOthers, found]
      · cases done
        exact ⟨[], token, tokens, rfl, rfl, rfl⟩

theorem template_sound {depth : Nat} {tree : Template} {tokens rest : List Token}
    (done : template depth tokens = .read tree rest) :
    ∃ (derivation : Derivation) (more : List Token),
      tokens = derivation.tokens ++ more ∧ derivation.template = tree := by
  obtain ⟨first, middle, readFirst, done⟩ := Outcome.read_of_andThen done
  obtain ⟨others, after, readOthers, done⟩ := Outcome.read_of_andThen done
  obtain ⟨_, readLast, rfl⟩ := Outcome.read_of_map done
  obtain ⟨parts, behind, more, rest, same, rfl⟩ := line_sound readFirst
  obtain ⟨lines, last, behindLast, ends, sameOthers, rfl⟩ := moreLines_sound depth readOthers
  obtain ⟨eof, more, sameLast, kind, -⟩ := cons_of_ended readLast
  rw [ends] at sameLast
  obtain ⟨rfl, rfl⟩ := List.cons.inj sameLast
  refine ⟨⟨parts, lines, ⟨last, kind⟩⟩, behindLast, ?_, ?_⟩
  · simp [Derivation.tokens, same, sameOthers, ends]
  · rw [rest, ends] at sameOthers
    rw [Derivation.template, eq_following sameOthers]

/-! ### What has a derivation is read -/

mutual

theorem argument_complete : (derivation : Argument) → (depth : Nat) → (rest : List Token) →
    derivation.tokens.length < depth → Guarded rest →
    argument depth (derivation.tokens ++ rest) = .read derivation.node rest
  | .number digits, depth + 1, rest, _, _ => by
    simp only [Argument.tokens, List.cons_append, argument, digits.known]
    rfl
  | .string literal, depth + 1, rest, _, _ => by
    simp only [Argument.tokens, List.cons_append, argument, literal.known]
    rfl
  | .property name, depth + 1, rest, _, guarded => by
    obtain ⟨following, more, rfl, other⟩ := guarded
    simp only [Argument.tokens, List.cons_append, List.nil_append, argument, name.known]
    rw [if_neg other]
    rfl
  | .call name opening inner closing, depth + 1, rest, enough, _ => by
    simp only [Argument.tokens, List.length_cons, List.length_append] at enough
    simp only [Argument.tokens, List.cons_append, List.append_assoc, argument, name.known]
    rw [if_pos opening.known]
    exact call_complete inner depth name.token closing rest (by simp at enough; omega)

theorem call_complete : (inner : Arguments) → (depth : Nat) → (name : Token) →
    (closing : Terminal .closeParen) → (rest : List Token) → inner.tokens.length + 1 < depth →
    call depth name (inner.tokens ++ closing.token :: rest) =
      .read (.call name.lexeme inner.nodes name.position) rest
  | _, 0, _, _, _, enough => absurd enough (Nat.not_lt_zero _)
  | .none, depth + 1, name, closing, rest, _ => by
    simp only [Arguments.tokens, List.nil_append, call]
    rw [if_neg (by rw [closing.known]; decide), expect_cons closing.known]
    rfl
  | .some first others, depth + 1, name, closing, rest, enough => by
    simp only [Arguments.tokens, List.length_append] at enough
    obtain ⟨token, tokens, same, starts⟩ := first.exists_cons
    have readFirst := argument_complete first depth (others.tokens ++ closing.token :: rest)
      (by omega) (guarded_moreArguments others closing rest)
    have readOthers := moreArguments_complete others depth closing rest (by omega)
    simp only [Arguments.tokens, List.append_assoc]
    rw [same] at readFirst ⊢
    simp only [List.cons_append, call] at readFirst ⊢
    rw [if_pos starts, readFirst, Outcome.read_andThen, readOthers, Outcome.read_andThen,
      expect_cons closing.known]
    rfl

theorem moreArguments_complete : (derivation : MoreArguments) → (depth : Nat) →
    (closing : Terminal .closeParen) → (rest : List Token) → derivation.tokens.length < depth →
    moreArguments depth (derivation.tokens ++ closing.token :: rest) =
      .read derivation.nodes (closing.token :: rest)
  | .nil, depth + 1, closing, rest, _ => by
    simp only [MoreArguments.tokens, List.nil_append, moreArguments]
    rw [if_neg (by rw [closing.known]; decide)]
    rfl
  | .cons comma next others, depth + 1, closing, rest, enough => by
    simp only [MoreArguments.tokens, List.length_cons, List.length_append] at enough
    have readNext := argument_complete next depth (others.tokens ++ closing.token :: rest)
      (by omega) (guarded_moreArguments others closing rest)
    have readOthers := moreArguments_complete others depth closing rest (by omega)
    simp only [MoreArguments.tokens, List.cons_append, List.append_assoc, moreArguments]
    rw [if_pos comma.known, readNext, Outcome.read_andThen, readOthers]
    rfl

end

theorem pipes_complete (others : List PipedArgument) (depth : Nat) (left : Node)
    (closing : Terminal .closeHole) (rest : List Token)
    (enough : (others.flatMap PipedArgument.tokens).length < depth) :
    pipes depth left (others.flatMap PipedArgument.tokens ++ closing.token :: rest) =
      .read (others.foldl PipedArgument.node left) (closing.token :: rest) := by
  induction others generalizing depth left with
  | nil =>
    obtain ⟨depth, rfl⟩ := Nat.exists_eq_add_one.mpr enough
    simp only [List.flatMap_nil, List.nil_append, pipes]
    rw [if_neg (by rw [closing.known]; decide)]
    rfl
  | cons piped others ih =>
    obtain ⟨depth, rfl⟩ := Nat.exists_eq_add_one.mpr (Nat.zero_lt_of_lt enough)
    simp only [List.flatMap_cons, PipedArgument.tokens, List.length_append, List.length_cons]
      at enough
    have read := argument_complete piped.target depth _ (by omega)
      (guarded_pipedArguments others closing rest)
    simp only [List.flatMap_cons, PipedArgument.tokens, List.cons_append, List.append_assoc, pipes]
    rw [if_pos piped.mark.known, read, Outcome.read_andThen, ih depth _ (by omega)]
    rfl

theorem chain_complete (derivation : Chain) (depth : Nat) (closing : Terminal .closeHole)
    (rest : List Token) (enough : derivation.tokens.length < depth) :
    chain depth (derivation.tokens ++ closing.token :: rest) =
      .read derivation.node (closing.token :: rest) := by
  rw [Chain.tokens, List.length_append] at enough
  have read := argument_complete derivation.first depth _ (by omega)
    (guarded_pipedArguments derivation.others closing rest)
  rw [Chain.tokens, List.append_assoc, chain, read, Outcome.read_andThen,
    pipes_complete _ depth _ closing rest (by omega)]
  rfl

theorem parts_complete (derivation : List Part) (depth : Nat) {following : Token}
    (more : List Token) (ends : EndsLine following)
    (enough : (derivation.flatMap Part.tokens).length < depth) :
    parts depth (derivation.flatMap Part.tokens ++ following :: more) =
      .read (derivation.map Part.node) (following :: more) := by
  induction derivation generalizing depth with
  | nil =>
    obtain ⟨depth, rfl⟩ := Nat.exists_eq_add_one.mpr enough
    rcases ends with kind | kind <;> simp [parts, kind]
  | cons part others ih =>
    obtain ⟨depth, rfl⟩ := Nat.exists_eq_add_one.mpr (Nat.zero_lt_of_lt enough)
    cases part with
    | text word =>
      simp only [List.flatMap_cons, Part.tokens, List.length_append, List.length_cons] at enough
      have read := ih depth (by omega)
      simp only [List.flatMap_cons, Part.tokens, List.cons_append, List.nil_append, parts,
        word.known, read]
      rfl
    | hole inner =>
      simp only [List.flatMap_cons, Part.tokens, Hole.tokens, List.length_append,
        List.length_cons] at enough
      have readChain := chain_complete inner.chain depth inner.closing
        (others.flatMap Part.tokens ++ following :: more) (by omega)
      have read := ih depth (by omega)
      simp only [List.flatMap_cons, Part.tokens, Hole.tokens, List.cons_append, List.nil_append,
        List.append_assoc, parts, inner.opening.known, readChain, Outcome.read_andThen,
        expect_cons inner.closing.known, read]
      rfl

theorem line_complete (derivation : List Part) (depth : Nat) {following : Token}
    (more : List Token) (ends : EndsLine following)
    (enough : (derivation.flatMap Part.tokens).length < depth) :
    line depth (derivation.flatMap Part.tokens ++ following :: more) =
      .read (Grammar.line derivation following) (following :: more) := by
  have read := parts_complete derivation depth more ends enough
  cases derivation with
  | nil =>
    simp only [List.flatMap_nil, List.nil_append] at read ⊢
    rw [line, read]
    rfl
  | cons part others =>
    obtain ⟨first, inner, tokens, -⟩ := part.exists_cons
    simp only [List.flatMap_cons, tokens, List.cons_append] at read ⊢
    rw [line, read, Grammar.line, List.flatMap_cons, tokens]
    rfl

theorem moreLines_complete (others : List NextLine) (depth : Nat) (last : Terminal .endOfInput)
    (more : List Token) (enough : (others.flatMap NextLine.tokens).length < depth) :
    moreLines depth (others.flatMap NextLine.tokens ++ last.token :: more) =
      .read (nextLines last.token others) (last.token :: more) := by
  induction others generalizing depth with
  | nil =>
    obtain ⟨depth, rfl⟩ := Nat.exists_eq_add_one.mpr enough
    simp only [List.flatMap_nil, List.nil_append, moreLines]
    rw [if_neg (by rw [last.known]; decide)]
    rfl
  | cons next others ih =>
    obtain ⟨depth, rfl⟩ := Nat.exists_eq_add_one.mpr (Nat.zero_lt_of_lt enough)
    simp only [List.flatMap_cons, NextLine.tokens, List.length_append, List.length_cons] at enough
    obtain ⟨ends, followed⟩ := following_spec others last
    obtain ⟨rest, same⟩ := followed more
    have readLine := line_complete next.parts depth rest ends (by omega)
    have read := ih depth (by omega)
    rw [same] at read
    simp only [List.flatMap_cons, NextLine.tokens, List.cons_append, List.append_assoc, moreLines]
    rw [if_pos next.mark.known, same, readLine, Outcome.read_andThen, read]
    rfl

theorem template_complete (derivation : Derivation) (more : List Token) {depth : Nat}
    (enough : derivation.tokens.length < depth) :
    template depth (derivation.tokens ++ more) =
      .read derivation.template (derivation.last.token :: more) := by
  simp only [Derivation.tokens, List.length_append, List.length_singleton] at enough
  obtain ⟨ends, followed⟩ := following_spec derivation.others derivation.last
  obtain ⟨rest, same⟩ := followed more
  have readLine := line_complete derivation.first depth rest ends (by omega)
  have read := moreLines_complete derivation.others depth derivation.last more (by omega)
  simp only [Derivation.tokens, List.append_assoc, List.cons_append, List.nil_append]
  rw [template, same, readLine, Outcome.read_andThen, ← same, read, Outcome.read_andThen, ended,
    if_pos derivation.last.known]
  rfl

end Stencil.Eager
