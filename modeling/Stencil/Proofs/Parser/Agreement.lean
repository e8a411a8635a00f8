import Stencil.Proofs.Parser.Eager
import Stencil.Proofs.Parser.Stream

/-! When a run over a stream agrees with parsing the tokens ahead of it as a list: they read the
same and leave the same tokens, or refuse the same one. How far the stream has been read does not
matter. -/

namespace Stencil

/-- Only tokens other than the end of the input have been taken. -/
def Remains (before after : List Token) : Prop :=
  ∃ taken, before = taken ++ after ∧ ∀ token ∈ taken, token.kind ≠ .endOfInput

namespace Remains

variable {before middle after : List Token} {token : Token}

theorem refl (tokens : List Token) : Remains tokens tokens := ⟨[], rfl, by simp⟩

theorem trans (first : Remains before middle) (second : Remains middle after) :
    Remains before after := by
  obtain ⟨taken, rfl, unended⟩ := first
  obtain ⟨more, rfl, unended'⟩ := second
  refine ⟨taken ++ more, (List.append_assoc ..).symm, fun token member => ?_⟩
  exact (List.mem_append.mp member).elim (unended token) (unended' token)

theorem tail (unended : token.kind ≠ .endOfInput) : Remains (token :: after) after :=
  ⟨[token], rfl, by simpa using unended⟩

theorem length_le (remains : Remains before after) : after.length ≤ before.length := by
  obtain ⟨taken, rfl, -⟩ := remains
  simp

theorem mem (remains : Remains before after) (member : token ∈ after) : token ∈ before := by
  obtain ⟨taken, rfl, -⟩ := remains
  exact List.mem_append_right taken member

theorem endsInput (remains : Remains before after) (ends : EndsInput before) :
    EndsInput after := by
  obtain ⟨taken, rfl, unended⟩ := remains
  obtain ⟨last, same, kind⟩ := ends
  cases left : after with
  | nil =>
    rw [left, List.append_nil] at same
    exact absurd kind (unended last (List.mem_of_getLast? same))
  | cons first rest =>
    rw [left, List.getLast?_append, List.getLast?_cons, Option.some_or] at same
    exact ⟨last, by rw [List.getLast?_cons]; exact same, kind⟩

end Remains

/-- Only the last token is the end of the input, so another one has a successor. -/
theorem EndsInput.of_cons {token : Token} {rest : List Token} (ends : EndsInput (token :: rest))
    (unended : token.kind ≠ .endOfInput) : EndsInput rest :=
  (Remains.tail unended).endsInput ends

namespace Parser

open Eager (Outcome)

variable {α β : Type}

/-- A result of a run beside the outcome for the list of tokens before it. Tokens can be too few
only where the input has no end; the run then ends as its stream does. -/
inductive Alike (failure : Option Failure) (before : List Token) :
    EStateM.Result Failure TokenStream α → Outcome α → Prop where
  | read {value : α} {stream : TokenStream} {after : List Token}
      (remains : Remains before after) (ahead : stream.ahead = ⟨after, failure⟩) :
      Alike failure before (.ok value stream) (.read value after)
  | refused {found : Token} {expected : Expectation} {stream : TokenStream}
      (known : found ∈ before) (ahead : stream.ahead.failure = failure) :
      Alike failure before (.error (.template (.grammar found expected)) stream)
        (.refused found expected)
  | starved {stream : TokenStream} (unended : ¬EndsInput before)
      (ahead : stream.ahead.failure = failure) :
      Alike failure before (.error (failure.getD .noMoreTokens) stream) .starved

variable {failure : Option Failure} {before after : List Token}

theorem Alike.widen {result : EStateM.Result Failure TokenStream α} {outcome : Outcome α}
    (remains : Remains before after) (alike : Alike failure after result outcome) :
    Alike failure before result outcome := by
  cases alike with
  | read more ahead => exact .read (remains.trans more) ahead
  | refused known ahead => exact .refused (remains.mem known) ahead
  | starved unended ahead => exact .starved (fun ends => unended (remains.endsInput ends)) ahead

/-- A parser whose runs are like the outcome for the tokens ahead. -/
def Agree (failure : Option Failure) (before : List Token) (parser : Parser α)
    (outcome : Outcome α) : Prop :=
  ∀ stream : TokenStream, stream.ahead = ⟨before, failure⟩ →
    Alike failure before (parser stream) outcome

/-- Only one outcome can agree with a parser on complete tokens. -/
theorem Agree.unique {parser : Parser α} {outcome outcome' : Outcome α}
    (first : Agree none before parser outcome) (second : Agree none before parser outcome') :
    outcome = outcome' := by
  have alike := first (.ofTokens before) (TokenStream.ofTokens_ahead before)
  have alike' := second (.ofTokens before) (TokenStream.ofTokens_ahead before)
  generalize parser (.ofTokens before) = result at alike alike'
  cases alike with
  | read _ ahead =>
    cases alike' with
    | read _ ahead' =>
      rw [ahead] at ahead'
      cases ahead'
      rfl
  | refused => cases alike' with
    | refused => rfl
  | starved => cases alike' with
    | starved => rfl

theorem agree_pure (value : α) : Agree failure before (pure value) (.read value before) :=
  fun _ ahead => .read (.refl before) ahead

theorem agree_unexpected {found : Token} (known : found ∈ before) (expected : Expectation) :
    Agree failure before (unexpected found expected : Parser α) (.refused found expected) := by
  intro stream ahead
  exact .refused known (by rw [ahead])

theorem Agree.bind {parser : Parser α} {outcome : Outcome α} {next : α → Parser β}
    {eagerNext : α → List Token → Outcome β} (agree : Agree failure before parser outcome)
    (agreeNext : ∀ value after, Remains before after →
      Agree failure after (next value) (eagerNext value after)) :
    Agree failure before (parser >>= next) (outcome.andThen eagerNext) := by
  intro stream ahead
  have alike := agree stream ahead
  generalize ran : parser stream = result at alike
  cases alike with
  | read remains ahead =>
    rw [bind_of_ok ran]
    exact (agreeNext _ _ remains _ ahead).widen remains
  | refused known ahead =>
    rw [bind_of_error ran]
    exact .refused known ahead
  | starved unended ahead =>
    rw [bind_of_error ran]
    exact .starved unended ahead

/-! ### Agreement step by step -/

section Steps

variable {next : Token → Parser β} {outcome : Outcome β} {token : Token} {rest : List Token}

theorem agree_peek_bind (none : before = [] → outcome = .starved)
    (some : ∀ token rest, before = token :: rest → Agree failure before (next token) outcome) :
    Agree failure before (peek 0 >>= next) outcome := by
  intro stream ahead
  cases before with
  | nil =>
    obtain ⟨last, ran, same⟩ := peek_of_nil ahead 0
    rw [bind_of_error ran, none rfl]
    exact .starved (fun ends => ends.ne_nil rfl) (by rw [same])
  | cons token rest =>
    obtain ⟨middle, ran, same⟩ := peek_of_cons ahead
    rw [bind_of_ok ran]
    exact some token rest rfl middle same

/-- Looking one token further, behind a token that is not the end of the input. -/
theorem agree_peek_one_bind (unended : token.kind ≠ .endOfInput)
    (none : rest = [] → outcome = .starved)
    (some : ∀ following more, rest = following :: more →
      Agree failure (token :: rest) (next following) outcome) :
    Agree failure (token :: rest) (peek 1 >>= next) outcome := by
  intro stream ahead
  cases rest with
  | nil =>
    have missing : stream.ahead.tokens[1]? = Option.none := by simp [ahead]
    obtain ⟨last, ran, same⟩ := peek_of_none missing
    rw [bind_of_error ran, ahead, none rfl]
    exact .starved (fun ends => (ends.of_cons unended).ne_nil rfl) (by rw [same, ahead])
  | cons following more =>
    have there : stream.ahead.tokens[1]? = Option.some following := by simp [ahead]
    obtain ⟨middle, ran, same, -⟩ := peek_of_some there
    rw [bind_of_ok ran]
    exact some following more rfl middle (same.trans ahead)

theorem agree_advance_bind (unended : token.kind ≠ .endOfInput)
    (agree : Agree failure rest (next token) outcome) :
    Agree failure (token :: rest) (advance >>= next) outcome := by
  intro stream ahead
  obtain ⟨middle, ran, same⟩ := advance_of_cons ahead
  rw [if_neg unended] at same
  rw [bind_of_ok ran]
  exact (agree middle same).widen (.tail unended)

theorem agree_expect_bind {kind : TokenKind} {expected : Expectation}
    {eagerNext : Token → List Token → Outcome β} (unended : kind ≠ .endOfInput)
    (agree : ∀ token rest, before = token :: rest → token.kind = kind →
      Agree failure rest (next token) (eagerNext token rest)) :
    Agree failure before (expect kind expected >>= next)
      ((Eager.expect kind expected before).andThen eagerNext) := by
  simp only [expect, bind_assoc]
  apply agree_peek_bind
  · rintro rfl
    rfl
  · intro token rest same
    subst same
    rw [Eager.expect]
    by_cases found : token.kind = kind
    · rw [if_pos found, if_pos found]
      exact agree_advance_bind (by rwa [found]) (agree token rest rfl found)
    · rw [if_neg found, if_neg found, unexpected_bind]
      exact agree_unexpected List.mem_cons_self expected

/-- The next token is known to be of the kind. -/
theorem agree_expected_bind {expected : Expectation} {kind : TokenKind} (found : token.kind = kind)
    (unended : kind ≠ .endOfInput) (agree : Agree failure rest (next token) outcome) :
    Agree failure (token :: rest) (expect kind expected >>= next) outcome := by
  simp only [expect, bind_assoc]
  apply agree_peek_bind
  · intro absent
    cases absent
  · intro current others same
    cases same
    rw [if_pos found]
    exact agree_advance_bind (by rwa [found]) agree

/-- The end of the input stays. -/
theorem agree_expect_end_bind {next : Token → Parser β}
    {eagerNext : Unit → List Token → Outcome β}
    (agree : ∀ token rest, before = token :: rest → token.kind = .endOfInput →
      Agree failure before (next token) (eagerNext () before)) :
    Agree failure before (expect .endOfInput .lineBreakOrEnd >>= next)
      ((Eager.ended before).andThen eagerNext) := by
  simp only [expect, bind_assoc]
  apply agree_peek_bind
  · rintro rfl
    rfl
  · intro token rest same
    subst same
    rw [Eager.ended]
    by_cases found : token.kind = .endOfInput
    · rw [if_pos found, if_pos found]
      intro stream ahead
      obtain ⟨middle, ran, same⟩ := advance_of_cons ahead
      rw [if_pos found] at same
      rw [bind_of_ok ran]
      exact agree token rest rfl found middle same
    · rw [if_neg found, if_neg found, unexpected_bind]
      exact agree_unexpected List.mem_cons_self .lineBreakOrEnd

theorem agree_accepts_bind {kind : TokenKind} {next : Bool → Parser β}
    (unended : kind ≠ .endOfInput) (none : before = [] → outcome = .starved)
    (yes : ∀ token rest, before = token :: rest → token.kind = kind →
      Agree failure rest (next true) outcome)
    (no : ∀ token rest, before = token :: rest → token.kind ≠ kind →
      Agree failure before (next false) outcome) :
    Agree failure before (accepts kind >>= next) outcome := by
  simp only [accepts, bind_assoc]
  apply agree_peek_bind none
  intro token rest same
  subst same
  by_cases found : token.kind = kind
  · simp only [found, if_true, bind_assoc, pure_bind]
    exact agree_advance_bind (by rwa [found]) (yes token rest rfl found)
  · simp only [found, if_false, pure_bind]
    exact no token rest rfl found

end Steps

end Parser

end Stencil
