import Stencil.Proofs.Parser.Agreement

/-! The parser that reads its tokens on demand does what the parser of a complete list of tokens
does, unless the text fails to become tokens: then it reports that failure and nothing else. -/

namespace Stencil

namespace Parser

variable {failure : Option Failure}

mutual

theorem agree_argument : (left right : Nat) → (before : List Token) → before.length < left →
    before.length < right →
    Agree failure before (argument left) (Eager.argument right before)
  | left + 1, right + 1, before, leftEnough, rightEnough => by
    simp only [argument]
    apply agree_peek_bind
    · rintro rfl
      rfl
    intro token rest same
    subst same
    simp only [Eager.argument]
    cases kind : token.kind with
    | number => exact agree_advance_bind (by simp [kind]) (agree_pure _)
    | string => exact agree_advance_bind (by simp [kind]) (agree_pure _)
    | identifier =>
      apply agree_peek_one_bind (by simp [kind])
      · rintro rfl
        rfl
      intro following more same
      subst same
      simp only [List.length_cons] at leftEnough rightEnough
      by_cases opened : following.kind = .openParen
      · simp only [opened, if_true]
        exact agree_call left right token following more (by omega) (by omega) kind opened
      · simp only [opened, if_false]
        exact agree_advance_bind (by simp [kind]) (agree_pure _)
    | _ => exact agree_unexpected List.mem_cons_self .argument

/-- The name and the opening parenthesis of a call are looked at first and taken then. -/
theorem agree_call : (left right : Nat) → (name opening : Token) → (inner : List Token) →
    inner.length + 1 < left → inner.length + 1 < right →
    name.kind = .identifier → opening.kind = .openParen →
    Agree failure (name :: opening :: inner) (call left) (Eager.call right name inner)
  | 0, _, _, _, _, enough, _ => absurd enough (Nat.not_lt_zero _)
  | _, 0, _, _, _, _, enough => absurd enough (Nat.not_lt_zero _)
  | left + 1, right + 1, name, opening, inner, leftEnough, rightEnough => by
    intro named opened
    simp only [call]
    apply agree_expected_bind named (by decide)
    apply agree_expected_bind opened (by decide)
    apply agree_peek_bind
    · rintro rfl
      rfl
    intro current following same
    subst same
    simp only [Eager.call]
    by_cases starts : current.kind.startsArgument
    · simp only [starts, if_true]
      apply (agree_argument left right _ (by omega) (by omega)).bind
      intro first after remains
      have shorter := remains.length_le
      apply (agree_moreArguments left right after (by omega) (by omega)).bind
      intro others after' _
      exact agree_expect_bind (by decide) fun closing last _ _ => agree_pure _
    · simp only [starts]
      exact agree_expect_bind (by decide) fun closing last _ _ => agree_pure _

theorem agree_moreArguments : (left right : Nat) → (before : List Token) → before.length < left →
    before.length < right →
    Agree failure before (moreArguments left) (Eager.moreArguments right before)
  | left + 1, right + 1, before, leftEnough, rightEnough => by
    simp only [moreArguments]
    apply agree_accepts_bind (by decide)
    · rintro rfl
      rfl
    · intro comma rest same found
      subst same
      simp only [List.length_cons] at leftEnough rightEnough
      simp only [Eager.moreArguments, found, if_true]
      apply (agree_argument left right rest (by omega) (by omega)).bind
      intro next after remains
      have shorter := remains.length_le
      exact (agree_moreArguments left right after (by omega) (by omega)).bind
        fun others after' _ => agree_pure _
    · intro token rest same other
      subst same
      simp only [Eager.moreArguments, other, if_false]
      exact agree_pure _

end

theorem agree_pipes : (left right : Nat) → (before : List Token) → before.length < left →
    before.length < right → (expression : Node) →
    Agree failure before (pipes left expression) (Eager.pipes right expression before)
  | left + 1, right + 1, before, leftEnough, rightEnough, expression => by
    simp only [pipes]
    apply agree_peek_bind
    · rintro rfl
      rfl
    intro token rest same
    subst same
    simp only [Eager.pipes]
    by_cases piped : token.kind = .pipe
    · simp only [piped, if_true]
      simp only [List.length_cons] at leftEnough rightEnough
      apply agree_advance_bind (by simp [piped])
      apply (agree_argument left right rest (by omega) (by omega)).bind
      intro target after remains
      have shorter := remains.length_le
      exact agree_pipes left right after (by omega) (by omega)
        (.pipe expression target token.position)
    · simp only [piped, if_false]
      exact agree_pure _

theorem agree_chain {left right : Nat} {before : List Token} (leftEnough : before.length < left)
    (rightEnough : before.length < right) :
    Agree failure before (chain left) (Eager.chain right before) := by
  unfold chain
  apply (agree_argument left right before leftEnough rightEnough).bind
  intro first after remains
  have shorter := remains.length_le
  exact agree_pipes left right after (by omega) (by omega) first

theorem agree_parts : (left right : Nat) → (before : List Token) → before.length < left →
    before.length < right →
    Agree failure before (parts left) (Eager.parts right before)
  | left + 1, right + 1, before, leftEnough, rightEnough => by
    simp only [parts]
    apply agree_peek_bind
    · rintro rfl
      rfl
    intro token rest same
    subst same
    simp only [Eager.parts]
    simp only [List.length_cons] at leftEnough rightEnough
    cases kind : token.kind with
    | text =>
      apply agree_advance_bind (by simp [kind])
      exact (agree_parts left right rest (by omega) (by omega)).bind fun others after _ =>
        agree_pure _
    | openHole =>
      simp only [hole, bind_assoc, pure_bind]
      apply agree_expected_bind kind (by decide)
      apply (agree_chain (by omega) (by omega)).bind
      intro expression after remains
      have shorter := remains.length_le
      apply agree_expect_bind (by decide)
      intro closing outer same _
      subst same
      simp only [List.length_cons] at shorter
      exact (agree_parts left right outer (by omega) (by omega)).bind fun others after' _ =>
        agree_pure _
    | _ => exact agree_pure _

theorem agree_line {left right : Nat} {before : List Token} (leftEnough : before.length < left)
    (rightEnough : before.length < right) :
    Agree failure before (line left) (Eager.line right before) := by
  unfold line
  apply agree_peek_bind
  · rintro rfl
    rfl
  intro first rest same
  subst same
  exact (agree_parts left right _ leftEnough rightEnough).bind fun found after _ => agree_pure _

theorem agree_moreLines : (left right : Nat) → (before : List Token) → before.length < left →
    before.length < right →
    Agree failure before (moreLines left) (Eager.moreLines right before)
  | left + 1, right + 1, before, leftEnough, rightEnough => by
    simp only [moreLines]
    apply agree_accepts_bind (by decide)
    · rintro rfl
      rfl
    · intro mark rest same found
      subst same
      simp only [List.length_cons] at leftEnough rightEnough
      simp only [Eager.moreLines, found, if_true]
      apply (agree_line (by omega) (by omega)).bind
      intro next after remains
      have shorter := remains.length_le
      exact (agree_moreLines left right after (by omega) (by omega)).bind fun others after' _ =>
        agree_pure _
    · intro token rest same other
      subst same
      simp only [Eager.moreLines, other, if_false]
      exact agree_pure _

theorem agree_template {left right : Nat} {before : List Token}
    (leftEnough : before.length < left) (rightEnough : before.length < right) :
    Agree failure before (template left) (Eager.template right before) := by
  unfold template
  apply (agree_line leftEnough rightEnough).bind
  intro first after remains
  have shorter := remains.length_le
  apply (agree_moreLines left right after (by omega) (by omega)).bind
  intro others after' _
  exact agree_expect_end_bind fun token rest _ _ => agree_pure _

/-! ### Whole texts -/

section Outcome

variable {depth : Nat} {stream next : TokenStream}

theorem outcome_of_ok {template : Template}
    (ran : Parser.template depth stream = .ok template next) :
    outcome depth stream = .ok template := by
  unfold outcome
  rw [EStateM.run, ran]

theorem outcome_of_error {failure : Failure}
    (ran : Parser.template depth stream = .error failure next) :
    outcome depth stream = .error (settle failure next) := by
  unfold outcome
  rw [EStateM.run, ran]

theorem settle_of_none (failure : Failure) (complete : stream.ahead.failure = none) :
    settle failure stream = failure := by
  have none : stream.scanner.scan.failure = none := complete
  unfold settle
  split
  · rw [none, Option.getD_none]
  · rfl

theorem settle_grammar {failure : Failure} (ahead : stream.ahead.failure = some failure)
    (found : Token) (expected : Expectation) :
    settle (.template (.grammar found expected)) stream = failure := by
  have some : stream.scanner.scan.failure = some failure := ahead
  simp only [settle, some, Option.getD_some]

theorem settle_self {failure : Failure} (ahead : stream.ahead.failure = some failure) :
    settle failure stream = failure := by
  have some : stream.scanner.scan.failure = some failure := ahead
  unfold settle
  split
  · rw [some, Option.getD_some]
  · rfl

end Outcome

/-- The bound that a parse sets itself is greater than the number of its tokens. -/
theorem scan_length_lt (text : String) : (scan text).tokens.length < text.toList.length + 2 := by
  have bound := Scanner.scan_length_le (Scanner.ofText text.toList)
  simp only [Scanner.size, Scanner.ofText] at bound
  exact Nat.lt_succ_of_le bound

/-- A text that fails to become tokens fails for that reason. -/
theorem parse_of_failure {text : String} {failure : Failure}
    (failed : (scan text).failure = some failure) : parse text = .error failure := by
  have ahead : (TokenStream.ofText text).ahead = ⟨(scan text).tokens, some failure⟩ := by
    rw [TokenStream.ofText_ahead, ← failed]
  have bound := scan_length_lt text
  have alike := agree_template bound bound _ ahead
  unfold parse
  generalize ran : template _ (TokenStream.ofText text) = result at alike
  generalize eagerRan : Eager.template _ (scan text).tokens = eager at alike
  cases alike with
  | read remains left =>
    -- The end of the input would be among the tokens, and nothing fails behind it.
    obtain ⟨taken, same, -⟩ := remains
    obtain ⟨token, rest, rfl, kind⟩ := Eager.endOfInput_of_template eagerRan
    have complete := (Scanner.complete_of_endOfInput same kind).2
    rw [scan] at failed
    rw [failed] at complete
    cases complete
  | refused _ left => rw [outcome_of_error ran, settle_grammar left]
  | starved _ left => rw [outcome_of_error ran, Option.getD_some, settle_self left]

/-- Reading complete tokens on demand, from a text or from a list, comes to the same. -/
theorem outcome_of_complete {depth : Nat} {stream : TokenStream} {tokens : List Token}
    (ahead : stream.ahead = ⟨tokens, none⟩) (enough : tokens.length < depth) :
    outcome depth stream = Eager.parse tokens := by
  have alike := agree_template enough (Nat.lt_succ_self _) stream ahead
  unfold Eager.parse
  generalize ran : template depth stream = result at alike
  generalize Eager.template _ tokens = eager at alike
  cases alike with
  | read remains left => exact outcome_of_ok ran
  | refused _ left => rw [outcome_of_error ran, settle_of_none _ left]; rfl
  | starved _ left => rw [outcome_of_error ran, settle_of_none _ left]; rfl

/-- Only the grammar can refuse tokens that are complete, and it refuses one of them. -/
theorem grammar_of_eager {tokens : List Token} {failure : Failure} (ends : EndsInput tokens)
    (failed : Eager.parse tokens = .error failure) :
    ∃ found expected, found ∈ tokens ∧ failure = .template (.grammar found expected) := by
  have alike := agree_template (Nat.lt_succ_self _) (Nat.lt_succ_self _) (.ofTokens tokens)
    (TokenStream.ofTokens_ahead tokens)
  unfold Eager.parse at failed
  generalize template _ (TokenStream.ofTokens tokens) = result at alike
  generalize Eager.template _ tokens = eager at alike failed
  cases alike with
  | read => cases failed
  | @refused found expected _ known =>
    cases failed
    exact ⟨found, expected, known, rfl⟩
  | starved unended => exact absurd ends unended

theorem parse_of_tokenize {text : String} {tokens : List Token}
    (tokenized : tokenize text = .ok tokens) : parse text = Eager.parse tokens := by
  have scanned := scan_of_tokenize tokenized
  have bound := scan_length_lt text
  rw [scanned] at bound
  exact outcome_of_complete (scanned ▸ TokenStream.ofText_ahead text) bound

end Parser

/-- A failure to become tokens is the failure of the whole parse, wherever the grammar may have
been violated before. Of a text with complete tokens, reading them on demand makes the tree that
the complete list makes, or finds the same violation of the grammar, and nothing else can fail. -/
theorem parse_eq_tokenize_bind (text : String) :
    parse text = (tokenize text >>= Eager.parse) ∧
    (∀ failure, tokenize text = .error failure → IsLexical failure) ∧
    ∀ tokens, tokenize text = .ok tokens →
      parseTokens tokens = Eager.parse tokens ∧
      ∀ failure, Eager.parse tokens = .error failure →
        ∃ found expected, found ∈ tokens ∧ failure = .template (.grammar found expected) := by
  cases tokenized : tokenize text with
  | error failure =>
    have failed := failure_of_tokenize tokenized
    refine ⟨Parser.parse_of_failure failed, fun other same => ?_, fun tokens absent => ?_⟩
    · cases same
      exact Scanner.isLexical_of_scan failed
    · cases absent
  | ok tokens =>
    refine ⟨Parser.parse_of_tokenize tokenized, fun failure absent => ?_, fun found same => ?_⟩
    · cases absent
    · cases same
      exact ⟨Parser.outcome_of_complete (TokenStream.ofTokens_ahead _) (Nat.lt_succ_self _),
        fun failure => Parser.grammar_of_eager (endsInput_of_tokenize tokenized)⟩

end Stencil
