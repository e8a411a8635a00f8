import Stencil.Proofs.Grammar.Derivation
import Stencil.Proofs.Node.WellFormed
import Stencil.Proofs.Token.Emission

/-! What the source of an expression is read as: tokens with a derivation of the same shape. In
front of a character that can stand behind an argument, no token goes on beyond the source. -/

namespace Stencil

open Grammar Number Text

/-- A character that can stand behind an argument is next. -/
def Closes (following : List Char) : Prop :=
  ∃ c rest, following = c :: rest ∧ c ∈ [',', ')', ' ', '\x7d']

namespace Closes

variable {following : List Char}

theorem stops_isWord (closes : Closes following) : Stops isWord following := by
  have marks : [',', ')', ' ', '\x7d'].all (fun c => !isWord c) = true := by decide
  obtain ⟨c, rest, rfl, member⟩ := closes
  intro first same
  cases same
  simpa using List.all_eq_true.mp marks c member

theorem stops_isDigit (closes : Closes following) : Stops isDigit following := by
  intro c first
  cases digit : isDigit c with
  | false => rfl
  | true =>
    have word := isWord_of_isDigit digit
    rw [closes.stops_isWord c first] at word
    cases word

theorem head_ne_quote (closes : Closes following) : following.head? ≠ some '\'' := by
  obtain ⟨c, rest, rfl, member⟩ := closes
  intro same
  cases same
  revert member
  decide

end Closes

/-! ### Numbers -/

theorem ofDigits_digits (value : Nat) : ofDigits (digits value) = value :=
  Nat.ofDigitChars_ten_toDigits

theorem isNumeral_digits {value : Nat} (small : value ≤ greatestNumber) :
    IsNumeral (digits value) where
  nonempty := Nat.toDigits_ne_nil
  digital c member := by
    have digit := Nat.isDigit_of_mem_toDigits (by decide) (by decide) member
    simpa [Char.isDigit, isDigit, Char.le_def] using digit
  short := by
    have few : (digits value).length ≤ 10 :=
      (Nat.length_toDigits_le_iff (by decide) (by decide)).mpr
        (Nat.lt_of_le_of_lt small (by decide))
    exact Nat.le_trans few (by decide)
  small := by rwa [ofDigits_digits]

/-! ### Arguments -/

/-- The sources of arguments behind another one. -/
def moreSources : List Node → List Char
  | [] => []
  | node :: rest => ',' :: ' ' :: (node.source.toList ++ moreSources rest)

theorem toList_listed_cons (first : Node) (others : List Node) :
    (listed (Node.sources (first :: others))).toList =
      first.source.toList ++ moreSources others := by
  induction others generalizing first with
  | nil => simp [Node.sources, listed, moreSources]
  | cons next others ih =>
    have later := ih next
    simp only [Node.sources, listed] at later ⊢
    rw [String.intercalate_cons_cons, String.toList_append, String.toList_append, later,
      List.append_assoc]
    rfl

theorem closes_moreSources (others : List Node) (following : List Char) :
    Closes (moreSources others ++ ')' :: following) := by
  cases others with
  | nil => exact ⟨')', following, rfl, by decide⟩
  | cons next others => exact ⟨',', _, rfl, by decide⟩

theorem emits_mark {c : Char} {kind : TokenKind} (mark : punctuation? c = some kind)
    (position : Position) (following : List Char) :
    Emits ⟨.hole, position, c :: following⟩ [⟨kind, String.ofList [c], position⟩]
      ⟨.hole, position.advance c, following⟩ :=
  .single ((Spells.punctuation mark following).pulls position)

mutual

theorem emits_argument : (node : Node) → node.IsArgument → (position : Position) →
    (following : List Char) → Closes following →
    ∃ (derivation : Argument) (next : Position),
      Emits ⟨.hole, position, node.source.toList ++ following⟩ derivation.tokens
        ⟨.hole, next, following⟩ ∧
      derivation.node.shape = node.shape
  | .constant (.integer (.ofNat value)) place, ⟨_, small⟩, position, following, closes => by
    have numeral := isNumeral_digits (Int.ofNat_le.mp small)
    have spelled := Spells.number numeral closes.stops_isDigit
    have emits := Emits.single (spelled.pulls position)
    refine ⟨.number (.spelled (digits value) position), position.after (digits value), ?_, ?_⟩
    · simpa [Node.source, constantSource, Value.display, Value.literal, integerText,
        Argument.tokens, Terminal.spelled] using emits
    · simp [Argument.node, Terminal.spelled, ofDigits_digits]
  | .constant (.text value) place, _, position, following, closes => by
    have spelled := Spells.string value.toList closes.head_ne_quote
    have emits := Emits.single (spelled.pulls position)
    refine ⟨.string (.spelled (Literal.encoded value.toList) position),
      position.after (Literal.encoded value.toList), ?_, ?_⟩
    · simpa [Node.source, constantSource, Literal.encode, Argument.tokens, Terminal.spelled]
        using emits
    · have decoded := Literal.decode_encode value
      rw [Literal.encode] at decoded
      simp [Argument.node, Terminal.spelled, decoded]
  | .property name place, named, position, following, closes => by
    have spelled := Spells.identifier named closes.stops_isWord
    have emits := Emits.single (spelled.pulls position)
    refine ⟨.property (.spelled name.toList position), position.after name.toList, ?_, ?_⟩
    · simpa [Node.source, Argument.tokens, Terminal.spelled] using emits
    · simp [Argument.node, Terminal.spelled]
  | .call name arguments place, ⟨named, all⟩, position, following, _ => by
    have stops : Stops isWord ('(' :: ((listed (Node.sources arguments)).toList ++
        ')' :: following)) := by
      intro c same
      cases same
      decide
    have nameEmits := Emits.single ((Spells.identifier named stops).pulls position)
    have opening := emits_mark (show punctuation? '(' = some .openParen from rfl)
      (position.after name.toList) ((listed (Node.sources arguments)).toList ++ ')' :: following)
    obtain ⟨inner, next, emits, shape⟩ := emits_arguments arguments all
      ((position.after name.toList).advance '(') following
    have closing := emits_mark (show punctuation? ')' = some .closeParen from rfl) next following
    have whole := nameEmits.append (opening.append (emits.append closing))
    refine ⟨.call (.spelled name.toList position)
      (.spelled ['('] (position.after name.toList)) inner (.spelled [')'] next), next.advance ')',
      ?_, ?_⟩
    · simpa [Node.source, callSource, Argument.tokens, Terminal.spelled] using whole
    · simp [Argument.node, Terminal.spelled, shape]

theorem emits_arguments : (nodes : List Node) → Node.AreArguments nodes →
    (position : Position) → (following : List Char) →
    ∃ (derivation : Arguments) (next : Position),
      Emits ⟨.hole, position, (listed (Node.sources nodes)).toList ++ ')' :: following⟩
        derivation.tokens ⟨.hole, next, ')' :: following⟩ ∧
      derivation.nodes.map Node.shape = nodes.map Node.shape
  | [], _, position, following => ⟨.none, position, .nil _, rfl⟩
  | first :: others, ⟨valid, all⟩, position, following => by
    obtain ⟨node, middle, emits, shape⟩ := emits_argument first valid position
      (moreSources others ++ ')' :: following) (closes_moreSources others following)
    obtain ⟨more, next, emitsMore, shapes⟩ := emits_moreArguments others all middle following
    refine ⟨.some node more, next, ?_, ?_⟩
    · rw [toList_listed_cons, List.append_assoc]
      exact emits.append emitsMore
    · rw [Arguments.nodes, List.map_cons, List.map_cons, shape, shapes]

theorem emits_moreArguments : (nodes : List Node) → Node.AreArguments nodes →
    (position : Position) → (following : List Char) →
    ∃ (derivation : MoreArguments) (next : Position),
      Emits ⟨.hole, position, moreSources nodes ++ ')' :: following⟩
        derivation.tokens ⟨.hole, next, ')' :: following⟩ ∧
      derivation.nodes.map Node.shape = nodes.map Node.shape
  | [], _, position, following => ⟨.nil, position, .nil _, rfl⟩
  | first :: others, ⟨valid, all⟩, position, following => by
    have comma := emits_mark (show punctuation? ',' = some .comma from rfl) position
      (' ' :: (first.source.toList ++ (moreSources others ++ ')' :: following)))
    obtain ⟨node, middle, emits, shape⟩ := emits_argument first valid
      ((position.advance ',').advance ' ') (moreSources others ++ ')' :: following)
      (closes_moreSources others following)
    obtain ⟨more, next, emitsMore, shapes⟩ := emits_moreArguments others all middle following
    refine ⟨.cons (.spelled [','] position) node more, next, ?_, ?_⟩
    · obtain ⟨token, tokens, same, -⟩ := node.exists_cons
      rw [same] at emits
      have whole := comma.append (emits.behind_blank.append emitsMore)
      simpa [moreSources, MoreArguments.tokens, Terminal.spelled, same] using whole
    · rw [MoreArguments.nodes, List.map_cons, List.map_cons, shape, shapes]

end

/-! ### Pipes -/

theorem Grammar.Chain.tokens_snoc (first : Argument) (others : List PipedArgument)
    (piped : PipedArgument) : Chain.tokens ⟨first, others ++ [piped]⟩ =
      Chain.tokens ⟨first, others⟩ ++ piped.mark.token :: piped.target.tokens := by
  simp [Chain.tokens, PipedArgument.tokens]

theorem Grammar.Chain.node_snoc (first : Argument) (others : List PipedArgument)
    (piped : PipedArgument) : Chain.node ⟨first, others ++ [piped]⟩ =
      .pipe (Chain.node ⟨first, others⟩) piped.target.node piped.mark.token.position := by
  simp [Chain.node, PipedArgument.node]

theorem emits_chain_of_argument {node : Node} (valid : node.IsArgument) (position : Position)
    {following : List Char} (closes : Closes following) :
    ∃ (derivation : Chain) (next : Position),
      Emits ⟨.hole, position, node.source.toList ++ following⟩ derivation.tokens
        ⟨.hole, next, following⟩ ∧
      derivation.node.shape = node.shape := by
  obtain ⟨argument, next, emits, shape⟩ := emits_argument node valid position following closes
  exact ⟨⟨argument, []⟩, next, by simpa [Chain.tokens] using emits, shape⟩

theorem emits_expression : (node : Node) → node.IsExpression → (position : Position) →
    (following : List Char) → Closes following →
    ∃ (derivation : Chain) (next : Position),
      Emits ⟨.hole, position, node.source.toList ++ following⟩ derivation.tokens
        ⟨.hole, next, following⟩ ∧
      derivation.node.shape = node.shape
  | .pipe left right place, ⟨chained, valid⟩, position, following, closes => by
    obtain ⟨⟨first, others⟩, middle, emitsLeft, shapeLeft⟩ := emits_expression left chained position
      (' ' :: '|' :: ' ' :: (right.source.toList ++ following)) ⟨' ', _, rfl, by decide⟩
    have mark := emits_mark (show punctuation? '|' = some .pipe from rfl) (middle.advance ' ')
      (' ' :: (right.source.toList ++ following))
    obtain ⟨target, next, emitsRight, shapeRight⟩ := emits_argument right valid
      (((middle.advance ' ').advance '|').advance ' ') following closes
    obtain ⟨token, tokens, same, -⟩ := target.exists_cons
    rw [same] at emitsRight
    have whole := emitsLeft.append (mark.behind_blank.append emitsRight.behind_blank)
    refine ⟨⟨first, others ++ [⟨.spelled ['|'] (middle.advance ' '), target⟩]⟩, next, ?_, ?_⟩
    · rw [Chain.tokens_snoc, same]
      simpa [Node.source, Terminal.spelled] using whole
    · rw [Chain.node_snoc, Node.shape_pipe, Node.shape_pipe, shapeLeft, shapeRight]
  | .text _ _, valid, position, _, closes => emits_chain_of_argument valid position closes
  | .constant _ _, valid, position, _, closes => emits_chain_of_argument valid position closes
  | .property _ _, valid, position, _, closes => emits_chain_of_argument valid position closes
  | .call _ _ _, valid, position, _, closes => emits_chain_of_argument valid position closes
  | .line _ _, valid, position, _, closes => emits_chain_of_argument valid position closes
  | .template _, valid, position, _, closes => emits_chain_of_argument valid position closes
  | .bare, valid, position, _, closes => emits_chain_of_argument valid position closes

end Stencil
