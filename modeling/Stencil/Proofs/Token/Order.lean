import Mathlib.Data.List.Chain
import Stencil.Proofs.Token.Tiling

/-! The order of tokens in a text. Every token starts behind the one before, and the one behind a
line break starts where the line break ends. -/

namespace Stencil

/-- The place behind the characters of a token. -/
def Token.ending (token : Token) : Position := token.position.after token.lexeme.toList

/-- The tokens that separate lines. -/
def lineBreaks (tokens : List Token) : List Token :=
  tokens.filter fun token => token.kind = .lineBreak

namespace Pulls

variable {scanner next : Scanner} {token : Token}

theorem position_eq_ending (pulls : Pulls scanner token next) : next.position = token.ending := by
  cases pulls
  simp [Token.ending]

theorem offset_le (pulls : Pulls scanner token next) :
    scanner.position.offset ≤ token.position.offset := by
  cases pulls
  simp only [Position.after_offset]
  omega

/-- Only the end of the input takes no room. -/
theorem offset_lt (pulls : Pulls scanner token next) (inside : token.kind ≠ .endOfInput) :
    token.position.offset < next.position.offset := by
  cases pulls with
  | @intro _ _ _ lexeme _ _ _ _ _ spelled =>
    have nonempty : lexeme ≠ [] := fun empty => inside (spelled.lexeme_eq_nil_iff.mp empty)
    have positive := List.length_pos_iff.mpr nonempty
    simp only [Position.after_offset]
    omega

theorem mode_of_lineBreak (pulls : Pulls scanner token next) (kind : token.kind = .lineBreak) :
    next.mode = .text := by
  cases pulls with
  | intro _ _ _ spelled =>
    obtain rfl : _ = TokenKind.lineBreak := kind
    cases spelled with
    | punctuation mark => simpa using Scanner.mark_of_punctuation mark
    | _ => rfl

end Pulls

namespace Scanner

/-- No token starts before the scanner does. -/
theorem offset_le_of_mem_scan {scanner : Scanner} {token : Token}
    (member : token ∈ scanner.scan.tokens) : scanner.position.offset ≤ token.position.offset := by
  induction scanner using scan.induct with
  | case1 scanner first next pulled ih =>
    have pulls := pulls_of_pull pulled
    rw [scan_of_token pulled] at member
    rcases List.mem_cons.mp member with rfl | later
    · exact pulls.offset_le
    · by_cases last : first.kind = .endOfInput
      · rw [scan_of_finished ((endOfInput_iff pulled).mp last)] at later
        cases later
      · have first_le := pulls.offset_le
        have first_lt := pulls.offset_lt last
        have rest_le := ih later
        omega
  | case2 scanner failure pulled => simp [scan_of_failed pulled] at member
  | case3 scanner pulled => simp [scan_of_exhausted pulled] at member

theorem pairwise_offset_scan (scanner : Scanner) :
    scanner.scan.tokens.Pairwise fun first second =>
      first.position.offset < second.position.offset := by
  induction scanner using scan.induct with
  | case1 scanner token next pulled ih =>
    rw [scan_of_token pulled]
    refine List.pairwise_cons.mpr ⟨fun later member => ?_, ih⟩
    by_cases last : token.kind = .endOfInput
    · rw [scan_of_finished ((endOfInput_iff pulled).mp last)] at member
      cases member
    · exact Int.lt_of_lt_of_le ((pulls_of_pull pulled).offset_lt last) (offset_le_of_mem_scan member)
  | case2 scanner failure pulled => simp [scan_of_failed pulled]
  | case3 scanner pulled => simp [scan_of_exhausted pulled]

/-- A line starts where the line break in front of it ends. -/
theorem isChain_scan (scanner : Scanner) :
    scanner.scan.tokens.IsChain fun first second =>
      first.kind = .lineBreak → second.position = first.ending := by
  induction scanner using scan.induct with
  | case1 scanner token next pulled ih =>
    have pulls := pulls_of_pull pulled
    rw [scan_of_token pulled]
    refine List.isChain_cons.mpr ⟨fun second member broken => ?_, ih⟩
    obtain ⟨rest, scanned⟩ := List.head?_eq_some_iff.mp member
    rw [← pulls.position_eq_ending]
    obtain ⟨mode, position, letters⟩ := next
    obtain rfl : mode = .text := pulls.mode_of_lineBreak broken
    exact position_of_scan scanned
  | case2 scanner failure pulled => simp [scan_of_failed pulled]
  | case3 scanner pulled => simp [scan_of_exhausted pulled]

end Scanner

/-- No two tokens of a text stand at one place. -/
theorem eq_of_position_eq {text : String} {tokens front back front' back' : List Token}
    {token token' : Token} (tokenized : tokenize text = .ok tokens)
    (split : tokens = front ++ token :: back) (split' : tokens = front' ++ token' :: back')
    (same : token.position = token'.position) : front = front' ∧ token = token' := by
  have order := Scanner.pairwise_offset_scan (Scanner.ofText text.toList)
  rw [← Stencil.scan, scan_of_tokenize tokenized] at order
  have apart : ∀ {first second : Token} {before behind : List Token},
      tokens = before ++ first :: behind → second ∈ behind → first.position ≠ second.position := by
    intro first second before behind found later equal
    rw [found] at order
    have less := (List.pairwise_cons.mp (List.pairwise_append.mp order).2.1).1 second later
    rw [equal] at less
    exact absurd less (Int.lt_irrefl _)
  rcases List.append_eq_append_iff.mp (split.symm.trans split') with
    ⟨middle, rfl, rest⟩ | ⟨middle, rfl, rest⟩
  · cases middle with
    | nil => exact ⟨(List.append_nil _).symm, (List.cons.inj rest).1⟩
    | cons first others =>
      obtain ⟨rfl, rfl⟩ := List.cons.inj rest
      exact absurd same (apart split (List.mem_append_right _ List.mem_cons_self))
  · cases middle with
    | nil => exact ⟨List.append_nil _, (List.cons.inj rest).1.symm⟩
    | cons first others =>
      obtain ⟨rfl, rfl⟩ := List.cons.inj rest
      exact absurd same.symm (apart split' (List.mem_append_right _ List.mem_cons_self))

end Stencil
