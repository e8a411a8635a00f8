import Stencil.Proofs.Token.Spelling

/-! Whole scans. The end of the input comes last and only where nothing fails, every failure is
lexical, and there are at most as many tokens as characters and one. -/

namespace Stencil

open Text

/-- The last token is the end of the input. -/
def EndsInput (tokens : List Token) : Prop :=
  ∃ token, tokens.getLast? = some token ∧ token.kind = .endOfInput

theorem EndsInput.ne_nil {tokens : List Token} (ends : EndsInput tokens) : tokens ≠ [] := by
  rintro rfl
  obtain ⟨token, same, -⟩ := ends
  cases same

theorem EndsInput.cons {tokens : List Token} (ends : EndsInput tokens) (token : Token) :
    EndsInput (token :: tokens) := by
  obtain ⟨last, same, kind⟩ := ends
  refine ⟨last, ?_, kind⟩
  rw [List.getLast?_cons, same, Option.getD_some]

theorem Spells.endOfInput_iff {mode next : Mode} {kind : TokenKind} {lexeme following : List Char}
    (spelled : Spells mode kind lexeme following next) :
    kind = .endOfInput ↔ next = .finished := by
  cases spelled with
  | punctuation mark =>
    have marks := Scanner.mark_of_punctuation mark
    constructor
    · rintro rfl
      simp at marks
    · intro same
      cases same
  | _ => simp

namespace Scanner

variable {scanner next : Scanner} {token : Token}

theorem endOfInput_iff (pulled : scanner.pull = .token token next) :
    token.kind = .endOfInput ↔ next.mode = .finished := by
  obtain ⟨position, gap, inHole, spelled⟩ := pulls_of_pull pulled
  exact spelled.endOfInput_iff

/-! ### Single tokens -/

theorem pull_outcome (unfinished : scanner.mode ≠ .finished) :
    (∃ token next, scanner.pull = .token token next) ∨
      ∃ failure, scanner.pull = .failed failure ∧ IsLexical failure := by
  obtain ⟨mode, position, rest⟩ := scanner
  cases mode with
  | text =>
    obtain ⟨kind, lexeme, following, last, rfl, spelled⟩ := exists_spells_text rest
    exact .inl ⟨_, _, pullText_of_spells spelled position⟩
  | hole =>
    rcases pullHole_cases .hole (position.after (rest.takeWhile isInlineBlank))
      (rest.dropWhile isInlineBlank) with ⟨kind, lexeme, following, last, same, spelled⟩ | failed
    · have read := pullHole_of_spells spelled (position.after (rest.takeWhile isInlineBlank))
      rw [← same] at read
      exact .inl ⟨_, _, read⟩
    · obtain ⟨failure, same, fails⟩ := failed
      exact .inr ⟨failure, same, fails.isLexical⟩
  | finished => exact absurd rfl unfinished

theorem pull_of_finished (finished : scanner.mode = .finished) : scanner.pull = .exhausted := by
  rw [pull, finished]

theorem mode_of_exhausted (pulled : scanner.pull = .exhausted) : scanner.mode = .finished := by
  by_cases finished : scanner.mode = .finished
  · exact finished
  · rcases pull_outcome finished with ⟨token, next, other⟩ | ⟨failure, other, -⟩ <;>
      rw [other] at pulled <;> cases pulled

theorem isLexical_of_pull {failure : Failure} (pulled : scanner.pull = .failed failure) :
    IsLexical failure := by
  have unfinished : scanner.mode ≠ .finished := by
    intro finished
    rw [pull_of_finished finished] at pulled
    cases pulled
  rcases pull_outcome unfinished with ⟨token, next, other⟩ | ⟨found, same, lexical⟩
  · rw [other] at pulled
    cases pulled
  · rw [same] at pulled
    cases pulled
    exact lexical

/-! ### Tokens one after the other -/

theorem scan_of_token (pulled : scanner.pull = .token token next) :
    scanner.scan = ⟨token :: next.scan.tokens, next.scan.failure⟩ := by
  rw [scan]
  split <;> simp_all

theorem scan_of_failed {failure : Failure} (pulled : scanner.pull = .failed failure) :
    scanner.scan = ⟨[], some failure⟩ := by
  rw [scan]
  split <;> simp_all

theorem scan_of_exhausted (pulled : scanner.pull = .exhausted) : scanner.scan = ⟨[], none⟩ := by
  rw [scan]
  split <;> simp_all

theorem scan_of_finished (finished : scanner.mode = .finished) : scanner.scan = ⟨[], none⟩ :=
  scan_of_exhausted (pull_of_finished finished)

theorem isLexical_of_scan {failure : Failure} (failed : scanner.scan.failure = some failure) :
    IsLexical failure := by
  induction scanner using scan.induct with
  | case1 scanner token next pulled ih =>
    rw [scan_of_token pulled] at failed
    exact ih failed
  | case2 scanner found pulled =>
    rw [scan_of_failed pulled] at failed
    cases failed
    exact isLexical_of_pull pulled
  | case3 scanner pulled =>
    rw [scan_of_exhausted pulled] at failed
    cases failed

theorem scan_length_le (scanner : Scanner) : scanner.scan.tokens.length ≤ scanner.size := by
  induction scanner using scan.induct with
  | case1 scanner token next pulled ih =>
    have nearer := pull_size pulled
    rw [scan_of_token pulled, List.length_cons]
    omega
  | case2 scanner found pulled => simp [scan_of_failed pulled]
  | case3 scanner pulled => simp [scan_of_exhausted pulled]

/-- Tokens that are complete have an end. -/
theorem endsInput_of_scan (unfinished : scanner.mode ≠ .finished)
    (complete : scanner.scan.failure = none) : EndsInput scanner.scan.tokens := by
  induction scanner using scan.induct with
  | case1 scanner token next pulled ih =>
    rw [scan_of_token pulled] at complete ⊢
    by_cases last : next.mode = .finished
    · have end_kind := (endOfInput_iff pulled).mpr last
      exact ⟨token, by simp [scan_of_finished last], end_kind⟩
    · exact (ih last complete).cons token
  | case2 scanner found pulled =>
    rw [scan_of_failed pulled] at complete
    cases complete
  | case3 scanner pulled => exact absurd (mode_of_exhausted pulled) unfinished

/-- Behind the end of the input there are neither tokens nor failures. -/
theorem complete_of_endOfInput {taken rest : List Token} {token : Token}
    (tokens : scanner.scan.tokens = taken ++ token :: rest) (kind : token.kind = .endOfInput) :
    rest = [] ∧ scanner.scan.failure = none := by
  induction scanner using scan.induct generalizing taken with
  | case1 scanner first next pulled ih =>
    rw [scan_of_token pulled] at tokens ⊢
    cases taken with
    | nil =>
      obtain ⟨rfl, others⟩ := List.cons.inj tokens
      have last := scan_of_finished ((endOfInput_iff pulled).mp kind)
      rw [last] at others ⊢
      exact ⟨others.symm, rfl⟩
    | cons head more => exact ih (List.cons.inj tokens).2
  | case2 scanner found pulled => simp [scan_of_failed pulled] at tokens
  | case3 scanner pulled => simp [scan_of_exhausted pulled] at tokens

end Scanner

theorem scan_of_tokenize {text : String} {tokens : List Token}
    (tokenized : tokenize text = .ok tokens) : scan text = ⟨tokens, none⟩ := by
  unfold tokenize at tokenized
  rcases scanned : scan text with ⟨found, _ | failure⟩
  · simp only [scanned] at tokenized
    cases tokenized
    rfl
  · simp only [scanned] at tokenized
    cases tokenized

theorem failure_of_tokenize {text : String} {failure : Failure}
    (tokenized : tokenize text = .error failure) : (scan text).failure = some failure := by
  unfold tokenize at tokenized
  split at tokenized
  · cases tokenized
  · cases tokenized
    assumption

theorem endsInput_of_tokenize {text : String} {tokens : List Token}
    (tokenized : tokenize text = .ok tokens) : EndsInput tokens := by
  have scanned := scan_of_tokenize tokenized
  have unfinished : (Scanner.ofText text.toList).mode ≠ .finished := by simp [Scanner.ofText]
  have ends := Scanner.endsInput_of_scan unfinished (congrArg Scan.failure scanned)
  rw [scan] at scanned
  rwa [scanned] at ends

end Stencil
