import Mathlib
import Stencil.Proofs.Grammar.Recognition
import Stencil.Proofs.Parser.Bound
import Stencil.Proofs.Parser.Online
import Stencil.Proofs.Token.Order

/-! Where a violation of the grammar is found. Tokens that are too few can be completed to a derivation,
and a token that is refused cannot be, whatever follows it. So the reported token is the first one that
rules out a derivation. -/

namespace Stencil

open Grammar

/-- Tokens that some derivation begins with. -/
def Grammar.IsViable (tokens : List Token) : Prop :=
  ∃ derivation : Derivation, tokens <+: derivation.tokens

namespace Eager

/-- Any argument will do where one is missing. -/
def spareArgument : Argument := .property (.spelled [] .start)

/-! ### Too few tokens can be completed -/

mutual

theorem argument_viable : (depth : Nat) → {tokens : List Token} → tokens.length < depth →
    argument depth tokens = .starved → ∃ derivation : Argument, tokens <+: derivation.tokens
  | depth + 1, [], _, _ => ⟨spareArgument, List.nil_prefix⟩
  | depth + 1, token :: rest, enough, starved => by
    simp only [argument] at starved
    split at starved
    · cases starved
    · cases starved
    · rename_i kind
      split at starved
      · exact ⟨.property ⟨token, kind⟩, List.prefix_rfl⟩
      · rename_i opening inner
        split at starved
        · rename_i opened
          simp only [List.length_cons] at enough
          obtain ⟨arguments, closing, viable⟩ := call_viable depth (by omega) starved
          refine ⟨.call ⟨token, kind⟩ ⟨opening, opened⟩ arguments closing, ?_⟩
          simpa [Argument.tokens, List.cons_prefix_cons] using viable
        · cases starved
    · cases starved

theorem call_viable : (depth : Nat) → {name : Token} → {tokens : List Token} →
    tokens.length + 1 < depth → call depth name tokens = .starved →
    ∃ (inner : Arguments) (closing : Terminal .closeParen),
      tokens <+: inner.tokens ++ [closing.token]
  | depth + 1, _, [], _, _ => ⟨.none, .spelled [] .start, List.nil_prefix⟩
  | depth + 1, name, token :: rest, enough, starved => by
    simp only [call] at starved
    split at starved
    · rcases Outcome.starved_of_andThen starved with short | ⟨node, middle, read, short⟩
      · obtain ⟨first, viable⟩ := argument_viable depth (by omega) short
        refine ⟨.some first .nil, .spelled [] .start, viable.trans ?_⟩
        simp [Arguments.tokens]
      obtain ⟨first, same, -⟩ := argument_sound depth read
      rcases Outcome.starved_of_andThen short with late | ⟨nodes, after, next, late⟩
      · have shorter := congrArg List.length same
        simp only [List.length_append] at shorter
        obtain ⟨others, viable⟩ := moreArguments_viable depth (by omega) late
        refine ⟨.some first others, .spelled [] .start, ?_⟩
        rw [same, Arguments.tokens, List.append_assoc, List.prefix_append_right_inj]
        exact viable.trans (List.prefix_append ..)
      · obtain ⟨others, sameOthers, -⟩ := moreArguments_sound depth next
        obtain rfl := eq_nil_of_expect (Outcome.starved_of_map late)
        refine ⟨.some first others, .spelled [] .start, ?_⟩
        rw [same, sameOthers, Arguments.tokens, List.append_nil]
        exact List.prefix_append ..
    · cases eq_nil_of_expect (Outcome.starved_of_map starved)

theorem moreArguments_viable : (depth : Nat) → {tokens : List Token} → tokens.length < depth →
    moreArguments depth tokens = .starved →
    ∃ derivation : MoreArguments, tokens <+: derivation.tokens
  | depth + 1, [], _, _ => ⟨.nil, List.nil_prefix⟩
  | depth + 1, token :: rest, enough, starved => by
    simp only [List.length_cons] at enough
    simp only [moreArguments] at starved
    split at starved
    · rename_i kind
      rcases Outcome.starved_of_andThen starved with short | ⟨node, middle, read, short⟩
      · obtain ⟨next, viable⟩ := argument_viable depth (by omega) short
        refine ⟨.cons ⟨token, kind⟩ next .nil, ?_⟩
        simpa [MoreArguments.tokens, List.cons_prefix_cons] using viable
      · obtain ⟨next, rfl, -⟩ := argument_sound depth read
        rw [List.length_append] at enough
        obtain ⟨others, viable⟩ := moreArguments_viable depth (by omega)
          (Outcome.starved_of_map short)
        refine ⟨.cons ⟨token, kind⟩ next others, ?_⟩
        simpa [MoreArguments.tokens, List.cons_prefix_cons] using viable
    · cases starved

end

theorem pipes_viable (depth : Nat) {left : Node} {tokens : List Token}
    (enough : tokens.length < depth) (starved : pipes depth left tokens = .starved) :
    ∃ others : List PipedArgument, tokens <+: others.flatMap PipedArgument.tokens := by
  induction depth generalizing left tokens with
  | zero => cases enough
  | succ depth ih =>
    cases tokens with
    | nil => exact ⟨[], List.nil_prefix⟩
    | cons token rest =>
      simp only [List.length_cons] at enough
      simp only [pipes] at starved
      split at starved
      · rename_i kind
        rcases Outcome.starved_of_andThen starved with short | ⟨node, middle, read, short⟩
        · obtain ⟨target, viable⟩ := argument_viable depth (by omega) short
          refine ⟨[⟨⟨token, kind⟩, target⟩], ?_⟩
          simpa [PipedArgument.tokens, List.cons_prefix_cons] using viable
        · obtain ⟨target, rfl, -⟩ := argument_sound depth read
          rw [List.length_append] at enough
          obtain ⟨others, viable⟩ := ih (by omega) short
          refine ⟨⟨⟨token, kind⟩, target⟩ :: others, ?_⟩
          simpa [PipedArgument.tokens, List.cons_prefix_cons] using viable
      · cases starved

theorem chain_viable {depth : Nat} {tokens : List Token} (enough : tokens.length < depth)
    (starved : chain depth tokens = .starved) :
    ∃ derivation : Chain, tokens <+: derivation.tokens := by
  rcases Outcome.starved_of_andThen starved with short | ⟨node, middle, read, short⟩
  · obtain ⟨first, viable⟩ := argument_viable depth enough short
    exact ⟨⟨first, []⟩, viable.trans (List.prefix_append ..)⟩
  · obtain ⟨first, rfl, -⟩ := argument_sound depth read
    rw [List.length_append] at enough
    obtain ⟨others, viable⟩ := pipes_viable depth (by omega) short
    exact ⟨⟨first, others⟩, (List.prefix_append_right_inj _).mpr viable⟩

theorem parts_viable (depth : Nat) {tokens : List Token} (enough : tokens.length < depth)
    (starved : parts depth tokens = .starved) :
    ∃ derivation : List Part, tokens <+: derivation.flatMap Part.tokens := by
  induction depth generalizing tokens with
  | zero => cases enough
  | succ depth ih =>
    cases tokens with
    | nil => exact ⟨[], List.nil_prefix⟩
    | cons token rest =>
      simp only [List.length_cons] at enough
      simp only [parts] at starved
      split at starved
      · rename_i kind
        obtain ⟨others, viable⟩ := ih (by omega) (Outcome.starved_of_map starved)
        refine ⟨.text ⟨token, kind⟩ :: others, ?_⟩
        simpa [Part.tokens, List.cons_prefix_cons] using viable
      · rename_i kind
        rcases Outcome.starved_of_andThen starved with short | ⟨node, middle, read, short⟩
        · obtain ⟨chain, viable⟩ := chain_viable (by omega) short
          refine ⟨[.hole ⟨⟨token, kind⟩, chain, .spelled [] .start⟩], ?_⟩
          simpa [Part.tokens, Hole.tokens, List.cons_prefix_cons] using
            viable.trans (List.prefix_append ..)
        obtain ⟨chain, rfl, -⟩ := chain_sound read
        rw [List.length_append] at enough
        rcases Outcome.starved_of_andThen short with late | ⟨closing, after, next, late⟩
        · obtain rfl := eq_nil_of_expect late
          refine ⟨[.hole ⟨⟨token, kind⟩, chain, .spelled [] .start⟩], ?_⟩
          simp [Part.tokens, Hole.tokens, List.cons_prefix_cons]
        · obtain ⟨rfl, closed⟩ := cons_of_expect next
          simp only [List.length_cons] at enough
          obtain ⟨others, viable⟩ := ih (by omega) (Outcome.starved_of_map late)
          refine ⟨.hole ⟨⟨token, kind⟩, chain, ⟨closing, closed⟩⟩ :: others, ?_⟩
          simpa [Part.tokens, Hole.tokens, List.cons_prefix_cons] using viable
      · cases starved

theorem line_viable {depth : Nat} {tokens : List Token} (enough : tokens.length < depth)
    (starved : line depth tokens = .starved) :
    ∃ derivation : List Part, tokens <+: derivation.flatMap Part.tokens := by
  cases tokens with
  | nil => exact ⟨[], List.nil_prefix⟩
  | cons token rest => exact parts_viable depth enough (Outcome.starved_of_map starved)

theorem moreLines_viable (depth : Nat) {tokens : List Token} (enough : tokens.length < depth)
    (starved : moreLines depth tokens = .starved) :
    ∃ others : List NextLine, tokens <+: others.flatMap NextLine.tokens := by
  induction depth generalizing tokens with
  | zero => cases enough
  | succ depth ih =>
    cases tokens with
    | nil => exact ⟨[], List.nil_prefix⟩
    | cons token rest =>
      simp only [List.length_cons] at enough
      simp only [moreLines] at starved
      split at starved
      · rename_i kind
        rcases Outcome.starved_of_andThen starved with short | ⟨found, middle, read, short⟩
        · obtain ⟨parts, viable⟩ := line_viable (by omega) short
          refine ⟨[⟨⟨token, kind⟩, parts⟩], ?_⟩
          simpa [NextLine.tokens, List.cons_prefix_cons] using viable
        · obtain ⟨parts, following, more, -, rfl, -⟩ := line_sound read
          rw [List.length_append] at enough
          obtain ⟨others, viable⟩ := ih (by omega) (Outcome.starved_of_map short)
          refine ⟨⟨⟨token, kind⟩, parts⟩ :: others, ?_⟩
          simpa [NextLine.tokens, List.cons_prefix_cons] using viable
      · cases starved

theorem template_viable {depth : Nat} {tokens : List Token} (enough : tokens.length < depth)
    (starved : template depth tokens = .starved) : IsViable tokens := by
  rcases Outcome.starved_of_andThen starved with short | ⟨found, middle, read, short⟩
  · obtain ⟨parts, viable⟩ := line_viable enough short
    exact ⟨⟨parts, [], .spelled [] .start⟩, viable.trans (List.prefix_append ..)⟩
  obtain ⟨parts, following, more, -, rfl, -⟩ := line_sound read
  rw [List.length_append] at enough
  rcases Outcome.starved_of_andThen short with late | ⟨others, after, next, late⟩
  · obtain ⟨lines, viable⟩ := moreLines_viable depth (by omega) late
    refine ⟨⟨parts, lines, .spelled [] .start⟩, (List.prefix_append_right_inj _).mpr ?_⟩
    exact viable.trans (List.prefix_append ..)
  · obtain ⟨lines, last, behind, rfl, rfl, -⟩ := moreLines_sound depth next
    have stuck := Outcome.starved_of_map late
    rw [ended] at stuck
    split at stuck <;> cases stuck

/-! ### A refused token cannot stand there -/

/-- The tokens before the refused one can be completed, and with it no more. -/
theorem exists_of_template_refused {depth : Nat} {tokens : List Token} {found : Token}
    {expected : Expectation} (enough : tokens.length < depth)
    (refused : template depth tokens = .refused found expected) :
    ∃ before behind, tokens = before ++ found :: behind ∧
      IsViable before ∧ ¬IsViable (before ++ [found]) := by
  obtain ⟨before, behind, rfl, starved, always⟩ := (isOnline_template depth).refuses refused
  simp only [List.length_append, List.length_cons] at enough
  refine ⟨before, behind, rfl, template_viable (by omega) starved, ?_⟩
  rintro ⟨derivation, others, same⟩
  -- A derivation needs a bound of its own, which is enough for the refused tokens as well.
  obtain ⟨larger, deep⟩ : ∃ larger, derivation.tokens.length < larger := ⟨_, Nat.lt_succ_self _⟩
  have total := congrArg List.length same
  simp only [List.length_append, List.length_singleton] at total
  have single : template larger (before ++ [found]) = .refused found expected := by
    rw [← always []]
    apply template_bound <;> rw [List.length_append, List.length_singleton] <;> omega
  obtain ⟨front, back, split, -, still⟩ := (isOnline_template larger).refuses single
  have read := template_complete derivation [] deep
  rw [List.append_nil, ← same, split, List.append_assoc, List.cons_append, still] at read
  cases read

end Eager

/-- A text that has tokens but no tree is refused for one of its tokens, the only one at the reported
place. The tokens before that one begin some derivation, and together with it they begin none. -/
theorem first_impossible_token {text : String} {tokens : List Token} {failure : Failure}
    (tokenized : tokenize text = .ok tokens) (rejected : parse text = .error failure) :
    ∃ found expected, failure = .template (.grammar found expected) ∧ found ∈ tokens ∧
      ∀ front token back, tokens = front ++ token :: back →
        token.position = (TemplateError.grammar found expected).position →
        token = found ∧ IsViable front ∧ ¬IsViable (front ++ [token]) := by
  rw [Parser.parse_of_tokenize tokenized] at rejected
  obtain ⟨found, expected, member, rfl⟩ :=
    Parser.grammar_of_eager (endsInput_of_tokenize tokenized) rejected
  refine ⟨found, expected, rfl, member, fun front token back split same => ?_⟩
  have refused : Eager.template (tokens.length + 1) tokens = .refused found expected :=
    Eager.Outcome.refused_of_toExcept rejected
  obtain ⟨before, behind, split', viable, last⟩ :=
    Eager.exists_of_template_refused (Nat.lt_succ_self _) refused
  obtain ⟨rfl, rfl⟩ := eq_of_position_eq tokenized split split' same
  exact ⟨rfl, viable, last⟩

/-- The tokens of a call whose second argument follows without a comma. -/
def missingComma : List Token :=
  [⟨.openHole, "\x7b", ⟨0, 1, 1⟩⟩, ⟨.identifier, "f", ⟨1, 1, 2⟩⟩, ⟨.openParen, "(", ⟨2, 1, 3⟩⟩,
    ⟨.number, "1", ⟨3, 1, 4⟩⟩, ⟨.number, "2", ⟨5, 1, 6⟩⟩, ⟨.closeParen, ")", ⟨6, 1, 7⟩⟩,
    ⟨.closeHole, "\x7d", ⟨7, 1, 8⟩⟩, ⟨.endOfInput, "", ⟨8, 1, 9⟩⟩]

theorem first_impossible_token_missingComma :
    tokenize "\x7bf(1 2)\x7d" = .ok missingComma ∧
    parse "\x7bf(1 2)\x7d" = .error (.template
      (.grammar ⟨.number, "2", ⟨5, 1, 6⟩⟩ .commaOrCloseParen)) ∧
    IsViable (missingComma.take 4) ∧ ¬IsViable (missingComma.take 5) := by
  have tokenized : tokenize "\x7bf(1 2)\x7d" = .ok missingComma := by cbv
  have rejected : parse "\x7bf(1 2)\x7d" = .error (.template
      (.grammar ⟨.number, "2", ⟨5, 1, 6⟩⟩ .commaOrCloseParen)) :=
    (Parser.parse_of_tokenize tokenized).trans rfl
  obtain ⟨found, expected, same, -, only⟩ := first_impossible_token tokenized rejected
  cases same
  obtain ⟨-, viable, last⟩ := only (missingComma.take 4) _ (missingComma.drop 5) rfl rfl
  exact ⟨tokenized, rejected, viable, last⟩

end Stencil
