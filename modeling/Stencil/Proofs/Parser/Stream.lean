import Stencil.Node.Parse
import Stencil.Proofs.Token.Scanning

/-! What a parser can still read. A stream is seen through the tokens and the failure that are
still ahead of it, wherever the border between its buffer and its scanner lies. Every step of a
parser is described here in those terms, so that no later proof looks into a stream. -/

namespace Stencil

namespace TokenStream

/-- The tokens still to be taken, and the failure behind them. -/
def ahead (stream : TokenStream) : Scan :=
  ⟨stream.buffer ++ stream.scanner.scan.tokens, stream.scanner.scan.failure⟩

theorem ofText_ahead (text : String) : (ofText text).ahead = scan text := rfl

theorem ofTokens_ahead (tokens : List Token) : (ofTokens tokens).ahead = ⟨tokens, none⟩ := by
  simp [ahead, ofTokens, Scanner.scan_of_finished, Scanner.finished]

end TokenStream

/-- What a parser meets that runs out of tokens: the failure behind them, if there is one. -/
def Scan.ending (scan : Scan) : Failure := scan.failure.getD .noMoreTokens

namespace Parser

/-! ### Steps one after the other -/

section Bind

variable {α β : Type} {step : Parser α} {next : α → Parser β} {stream middle : TokenStream}

theorem bind_of_ok {value : α} (ran : step stream = .ok value middle) :
    (step >>= next) stream = next value middle := by
  simp only [bind, EStateM.bind, ran]

theorem bind_of_error {failure : Failure} (ran : step stream = .error failure middle) :
    (step >>= next) stream = .error failure middle := by
  simp only [bind, EStateM.bind, ran]

theorem get_bind (next : TokenStream → Parser β) (stream : TokenStream) :
    (get >>= next) stream = next stream stream := rfl

theorem unexpected_bind (found : Token) (expected : Expectation) (next : α → Parser β) :
    (unexpected found expected >>= next) = unexpected found expected := rfl

end Bind

/-! ### Filling the buffer -/

theorem pull_of_cons {stream : TokenStream} {token : Token} {rest : List Token}
    (left : stream.scanner.scan.tokens = token :: rest) :
    ∃ next, pull stream = .ok () next ∧ next.ahead = stream.ahead ∧
      next.buffer = stream.buffer ++ [token] ∧ next.scanner.scan.tokens = rest := by
  cases pulled : stream.scanner.pull with
  | token found scanner =>
    have scanned := Scanner.scan_of_token pulled
    simp only [scanned, List.cons.injEq] at left
    obtain ⟨rfl, rfl⟩ := left
    refine ⟨⟨stream.buffer ++ [found], scanner⟩, ?_, ?_, rfl, rfl⟩
    · simp only [pull, pulled]
    · simp [TokenStream.ahead, scanned]
  | failed failure => simp [Scanner.scan_of_failed pulled] at left
  | exhausted => simp [Scanner.scan_of_exhausted pulled] at left

theorem pull_of_nil {stream : TokenStream} (left : stream.scanner.scan.tokens = []) :
    pull stream = .error stream.ahead.ending stream := by
  cases pulled : stream.scanner.pull with
  | token found scanner => simp [Scanner.scan_of_token pulled] at left
  | failed failure =>
    simp only [pull, pulled, Scan.ending, TokenStream.ahead, Scanner.scan_of_failed pulled,
      Option.getD_some]
  | exhausted =>
    simp only [pull, pulled, Scan.ending, TokenStream.ahead, Scanner.scan_of_exhausted pulled,
      Option.getD_none]

theorem fill_of_le (count : Nat) (stream : TokenStream)
    (enough : count ≤ stream.scanner.scan.tokens.length) :
    ∃ next, fill count stream = .ok () next ∧ next.ahead = stream.ahead ∧
      next.buffer.length = stream.buffer.length + count := by
  induction count generalizing stream with
  | zero => exact ⟨stream, rfl, rfl, rfl⟩
  | succ count ih =>
    obtain ⟨token, rest, left⟩ := List.exists_cons_of_length_pos (Nat.zero_lt_of_lt enough)
    obtain ⟨middle, pulled, ahead, buffer, tokens⟩ := pull_of_cons left
    have fewer : count ≤ middle.scanner.scan.tokens.length := by
      rw [left, List.length_cons] at enough
      rw [tokens]
      omega
    obtain ⟨next, filled, same, length⟩ := ih middle fewer
    refine ⟨next, ?_, same.trans ahead, ?_⟩
    · rw [fill, bind_of_ok pulled, filled]
    · rw [length, buffer, List.length_append, List.length_singleton]
      omega

theorem fill_of_lt (count : Nat) (stream : TokenStream)
    (short : stream.scanner.scan.tokens.length < count) :
    ∃ next, fill count stream = .error stream.ahead.ending next ∧ next.ahead = stream.ahead := by
  induction count generalizing stream with
  | zero => exact absurd short (Nat.not_lt_zero _)
  | succ count ih =>
    cases left : stream.scanner.scan.tokens with
    | nil => exact ⟨stream, by rw [fill, bind_of_error (pull_of_nil left)], rfl⟩
    | cons token rest =>
      obtain ⟨middle, pulled, ahead, -, tokens⟩ := pull_of_cons left
      have fewer : middle.scanner.scan.tokens.length < count := by
        rw [left, List.length_cons] at short
        rw [tokens]
        omega
      obtain ⟨next, filled, same⟩ := ih middle fewer
      exact ⟨next, by rw [fill, bind_of_ok pulled, filled, ahead], same.trans ahead⟩

/-! ### Looking at tokens -/

theorem peek_of_some {distance : Nat} {stream : TokenStream} {token : Token}
    (there : stream.ahead.tokens[distance]? = some token) :
    ∃ next, peek distance stream = .ok token next ∧ next.ahead = stream.ahead ∧
      distance < next.buffer.length := by
  have reach : distance < stream.buffer.length + stream.scanner.scan.tokens.length := by
    have bound := (List.getElem?_eq_some_iff.mp there).1
    simpa [TokenStream.ahead] using bound
  obtain ⟨next, filled, ahead, length⟩ :=
    fill_of_le (distance + 1 - stream.buffer.length) stream (by omega)
  have buffered : distance < next.buffer.length := by omega
  have found : next.buffer[distance]? = some token := by
    rw [← there, ← ahead, TokenStream.ahead, List.getElem?_append_left buffered]
  refine ⟨next, ?_, ahead, buffered⟩
  change (fill _ >>= fun _ => _) stream = _
  rw [bind_of_ok filled, get_bind, found]
  rfl

theorem peek_of_none {distance : Nat} {stream : TokenStream}
    (missing : stream.ahead.tokens[distance]? = none) :
    ∃ next, peek distance stream = .error stream.ahead.ending next ∧
      next.ahead = stream.ahead := by
  have reach : stream.buffer.length + stream.scanner.scan.tokens.length ≤ distance := by
    simpa [TokenStream.ahead] using missing
  obtain ⟨next, filled, ahead⟩ :=
    fill_of_lt (distance + 1 - stream.buffer.length) stream (by omega)
  refine ⟨next, ?_, ahead⟩
  change (fill _ >>= fun _ => _) stream = _
  rw [bind_of_error filled]

section Ahead

variable {stream : TokenStream} {token : Token} {rest : List Token} {failure : Option Failure}

theorem peek_of_cons (ahead : stream.ahead = ⟨token :: rest, failure⟩) :
    ∃ next, peek 0 stream = .ok token next ∧ next.ahead = ⟨token :: rest, failure⟩ := by
  have there : stream.ahead.tokens[0]? = some token := by simp [ahead]
  obtain ⟨next, peeked, same, -⟩ := peek_of_some there
  exact ⟨next, peeked, same.trans ahead⟩

theorem peek_of_nil (ahead : stream.ahead = ⟨[], failure⟩) (distance : Nat) :
    ∃ next, peek distance stream = .error (failure.getD .noMoreTokens) next ∧
      next.ahead = ⟨[], failure⟩ := by
  have missing : stream.ahead.tokens[distance]? = none := by simp [ahead]
  obtain ⟨next, peeked, same⟩ := peek_of_none missing
  refine ⟨next, ?_, same.trans ahead⟩
  rw [peeked, ahead, Scan.ending]

/-- The end of the input stays, any other token is taken. -/
theorem advance_of_cons (ahead : stream.ahead = ⟨token :: rest, failure⟩) :
    ∃ next, advance stream = .ok token next ∧
      next.ahead = ⟨if token.kind = .endOfInput then token :: rest else rest, failure⟩ := by
  have there : stream.ahead.tokens[0]? = some token := by simp [ahead]
  obtain ⟨next, peeked, same, buffered⟩ := peek_of_some there
  have next_ahead : next.ahead = ⟨token :: rest, failure⟩ := same.trans ahead
  unfold advance
  rw [bind_of_ok peeked]
  by_cases last : token.kind = .endOfInput
  · refine ⟨next, ?_, ?_⟩
    · simp only [last, ne_eq, not_true_eq_false, if_false]
      rfl
    · rw [if_pos last, next_ahead]
  · refine ⟨{ next with buffer := next.buffer.drop 1 }, ?_, ?_⟩
    · simp only [last, ne_eq, not_false_eq_true, if_true]
      rfl
    · obtain ⟨first, others, buffer⟩ := List.exists_cons_of_length_pos buffered
      simp only [TokenStream.ahead, buffer, List.cons_append, Scan.mk.injEq, List.cons.injEq]
        at next_ahead
      obtain ⟨⟨-, tokens⟩, fault⟩ := next_ahead
      simp only [TokenStream.ahead, buffer, List.drop_one, List.tail_cons, tokens, fault,
        if_neg last]

end Ahead

end Parser

end Stencil
