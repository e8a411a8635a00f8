import Stencil.Proofs.Concatenation.Seam
import Stencil.Proofs.Token.Tiling

/-! Scanning two texts at once. Where the first text has complete tokens, the scanner comes to the second
text outside holes. Unless a line end is cut, the tokens are those of the one text and those of the other,
with two texts at the seam made one. -/

namespace Stencil

open Text

/-- Two texts become one, at the place of the first. -/
def Token.fuse (first second : Token) : Option Token :=
  if first.kind = .text ∧ second.kind = .text then
    some ⟨.text, first.lexeme ++ second.lexeme, first.position⟩
  else none

theorem Token.fuse_of_kind_ne_text {first : Token} (other : first.kind ≠ .text) (second : Token) :
    first.fuse second = none :=
  if_neg fun both => other both.1

/-- Tokens in front of those of a scan. -/
def Scan.behind (front : List Token) (scan : Scan) : Scan :=
  ⟨seamed Token.fuse front scan.tokens, scan.failure⟩

/-! ### Longer rests -/

theorem endsText_append {following : List Char} (ends : endsText following = true)
    (more : following ≠ []) (behind : List Char) : endsText (following ++ behind) = true := by
  obtain ⟨c, rest, rfl⟩ := List.exists_cons_of_ne_nil more
  simp only [endsText, List.cons_append, Bool.or_eq_true, Bool.and_eq_true, beq_iff_eq] at ends ⊢
  rcases ends with plain | ⟨returned, broken⟩
  · exact .inl plain
  · obtain ⟨others, rfl⟩ := List.head?_eq_some_iff.mp broken
    exact .inr ⟨returned, rfl⟩

namespace Spells

variable {mode next : Mode} {kind : TokenKind} {lexeme following : List Char}

/-- More characters behind those that follow do not prolong a token. Where nothing followed, this
depends on the kind. -/
theorem append (spelled : Spells mode kind lexeme following next)
    (last : following = [] → next = .text ∧ kind ≠ .text) (behind : List Char) :
    Spells mode kind lexeme (following ++ behind) next := by
  by_cases none : following = []
  · obtain ⟨rfl, other⟩ := last none
    cases spelled with
    | lineFeed => exact .lineFeed _
    | returnLineFeed => exact .returnLineFeed _
    | text => exact absurd rfl other
    | closeHole => exact .closeHole _
  · refine spelled.in_front_of (fun c first => .inl ?_) ?_ ?_
    · rwa [List.head?_append_of_ne_nil following none] at first
    · rintro rfl
      exact absurd spelled.following_eq_nil.2 none
    · rintro rfl
      exact endsText_append spelled.of_text.2.1 none behind

end Spells

namespace Scanner

/-- A text in front of another text. -/
theorem scan_text_append {lexeme : List Char} (plain : IsPlain lexeme) {behind : List Char}
    (apart : ¬Fuses lexeme behind) (position : Position) :
    scan ⟨.text, position, lexeme ++ behind⟩ =
      (scan ⟨.text, position.after lexeme, behind⟩).behind
        [⟨.text, String.ofList lexeme, position⟩] := by
  obtain ⟨kind, word, following, next, rfl, spelled⟩ := exists_spells_text behind
  have pulled : pull ⟨.text, position.after lexeme, word ++ following⟩ = _ :=
    pullText_of_spells spelled (position.after lexeme)
  by_cases literal : kind = .text
  · subst literal
    obtain ⟨plainWord, ends, rfl⟩ := spelled.of_text
    have whole : IsPlain (lexeme ++ word) := by
      refine ⟨List.append_ne_nil_of_left_ne_nil plain.nonempty word, ?_⟩
      exact List.forall_mem_append.mpr ⟨plain.unbroken, plainWord.unbroken⟩
    have wholePulled : pull ⟨.text, position, lexeme ++ word ++ following⟩ = _ :=
      pullText_of_spells
        (.text whole (not_fuses_append plainWord.nonempty spelled.apart) ends) position
    have fuses : Token.fuse ⟨.text, String.ofList lexeme, position⟩
        ⟨.text, String.ofList word, position.after lexeme⟩ =
        some ⟨.text, String.ofList (lexeme ++ word), position⟩ := by
      rw [Token.fuse, if_pos ⟨rfl, rfl⟩, String.ofList_append]
    rw [← List.append_assoc, scan_of_token wholePulled, scan_of_token pulled, Scan.behind,
      seamed_of_fuses fuses, Position.after_append]
  · have begins : pull ⟨.text, position, lexeme ++ (word ++ following)⟩ = _ :=
      pullText_of_spells
        (.text plain apart (spelled.endsText_of_kind_ne_text literal)) position
    have different : ∀ token ∈ (scan ⟨.text, position.after lexeme, word ++ following⟩).tokens.head?,
        Token.fuse ⟨.text, String.ofList lexeme, position⟩ token = none := by
      rw [scan_of_token pulled]
      rintro token ⟨⟩
      exact if_neg fun both => literal both.2
    rw [scan_of_token begins, Scan.behind, seamed_singleton_of_apart different]

/-! ### The step to the next token -/

section

variable {scanner next : Scanner} {token : Token}

theorem after_rest_of_pull (pulled : scanner.pull = .token token next) :
    scanner.position.after scanner.rest = next.position.after next.rest := by
  cases pulls_of_pull pulled with
  | intro position => rw [Position.after_append, Position.after_append]

theorem not_fuses_of_pull (pulled : scanner.pull = .token token next) {behind : List Char}
    (apart : ¬Fuses scanner.rest behind) : ¬Fuses next.rest behind := by
  cases pulls_of_pull pulled with
  | @intro _ _ _ lexeme following blanks =>
    by_cases none : following = []
    · simp [none, Fuses]
    · rintro ⟨returned, broken⟩
      apply apart
      refine ⟨?_, broken⟩
      rw [← List.append_assoc, List.getLast?_append_of_ne_nil _ none, returned]

/-- The token stays the same with more characters behind, and they are left to be read. -/
theorem pull_append (pulled : scanner.pull = .token token next)
    (last : next.rest = [] → next.mode = .text ∧ token.kind ≠ .text) (behind : List Char) :
    pull ⟨scanner.mode, scanner.position, scanner.rest ++ behind⟩ =
      .token token ⟨next.mode, next.position, next.rest ++ behind⟩ := by
  cases pulls_of_pull pulled with
  | intro position gap inHole spelled =>
    have pulls := Pulls.intro position gap inHole (spelled.append last behind)
    rw [List.append_assoc, List.append_assoc]
    exact pull_of_pulls pulls

theorem mode_of_pull (pulled : scanner.pull = .token token next)
    (outer : token.kind.isInner = false) : scanner.mode = .text := by
  cases mode : scanner.mode with
  | text => rfl
  | hole =>
    cases pulls_of_pull pulled with
    | intro position gap inHole spelled =>
      have inner := spelled.isInner_eq
      rw [outer] at inner
      exact absurd mode (of_decide_eq_false inner.symm)
  | finished =>
    rw [pull_of_finished mode] at pulled
    cases pulled

/-- A text at the end is all that is left. -/
theorem eq_of_pull_text (pulled : scanner.pull = .token token next) (literal : token.kind = .text)
    (none : next.rest = []) : scanner.mode = .text ∧ IsPlain scanner.rest ∧
      token = ⟨.text, String.ofList scanner.rest, scanner.position⟩ := by
  have outside := mode_of_pull pulled (by rw [literal]; rfl)
  obtain ⟨mode, position, rest⟩ := scanner
  obtain rfl : mode = .text := outside
  obtain ⟨place, same, spelled⟩ := (pulls_of_pull pulled).of_text
  obtain ⟨kind, lexeme, found⟩ := token
  obtain rfl : kind = .text := literal
  rw [none, List.append_nil] at same
  refine ⟨rfl, same ▸ spelled.of_text.1, ?_⟩
  simp only [same, String.ofList_toList]
  exact congrArg _ place

/-- The end of the input is given where nothing is left, outside holes. -/
theorem eq_of_scan_end {last : Token} {others : List Token}
    (tokens : scanner.scan.tokens = last :: others) (ends : last.kind = .endOfInput) :
    scanner.mode = .text ∧ scanner.rest = [] ∧ last.position = scanner.position := by
  cases pulled : scanner.pull with
  | failed failure => simp [scan_of_failed pulled] at tokens
  | exhausted => simp [scan_of_exhausted pulled] at tokens
  | token found next =>
    rw [scan_of_token pulled] at tokens
    obtain ⟨rfl, -⟩ := List.cons.inj tokens
    have outside := mode_of_pull pulled (by rw [ends]; rfl)
    obtain ⟨mode, position, rest⟩ := scanner
    obtain rfl : mode = .text := outside
    obtain ⟨place, same, spelled⟩ := (pulls_of_pull pulled).of_text
    rw [ends] at spelled
    obtain ⟨empty, behind⟩ := spelled.following_eq_nil
    rw [empty, behind, List.nil_append] at same
    exact ⟨rfl, same, place⟩

/-- Only the end of the input is given where nothing is left. -/
theorem eq_nil_of_scan_append {others : List Token} {last : Token}
    (tokens : scanner.scan.tokens = others ++ [last]) (none : scanner.rest = []) : others = [] := by
  have few := scan_length_le scanner
  rw [tokens, List.length_append, List.length_singleton, size, none, List.length_nil] at few
  apply List.eq_nil_of_length_eq_zero
  split at few <;> omega

end

/-- A scanner that comes to the end of its text goes on with more text as a new scanner would there. -/
theorem scan_append {scanner : Scanner} {front : List Token} {last : Token}
    (complete : scanner.scan.tokens = front ++ [last]) (ends : last.kind = .endOfInput)
    {behind : List Char} (apart : ¬Fuses scanner.rest behind) :
    last.position = scanner.position.after scanner.rest ∧
    scan ⟨scanner.mode, scanner.position, scanner.rest ++ behind⟩ =
      (scan ⟨.text, scanner.position.after scanner.rest, behind⟩).behind front := by
  induction scanner using scan.induct generalizing front with
  | case2 scanner failure pulled => simp [scan_of_failed pulled] at complete
  | case3 scanner pulled => simp [scan_of_exhausted pulled] at complete
  | case1 scanner token next pulled ih =>
    cases front with
    | nil =>
      obtain ⟨mode, rest, place⟩ := eq_of_scan_end complete ends
      rw [mode, rest]
      exact ⟨place, by rw [Scan.behind, seamed_nil_left, List.nil_append, Position.after_nil]⟩
    | cons first others =>
      rw [scan_of_token pulled, List.cons_append] at complete
      obtain ⟨rfl, later⟩ := List.cons.inj complete
      obtain ⟨placed, scanned⟩ := ih later (not_fuses_of_pull pulled apart)
      refine ⟨placed.trans (after_rest_of_pull pulled).symm, ?_⟩
      -- A text at the seam may be prolonged, any other token stays as it is.
      by_cases seam : others = [] ∧ token.kind = .text
      · obtain ⟨rfl, literal⟩ := seam
        obtain ⟨-, none, -⟩ := eq_of_scan_end later ends
        obtain ⟨mode, plain, spelled⟩ := eq_of_pull_text pulled literal none
        rw [mode, spelled]
        exact scan_text_append plain apart scanner.position
      · have goes_on : next.rest = [] → next.mode = .text ∧ token.kind ≠ .text := by
          intro none
          obtain rfl := eq_nil_of_scan_append later none
          exact ⟨(eq_of_scan_end later ends).1, fun literal => seam ⟨rfl, literal⟩⟩
        have fronts : ∀ tokens, seamed Token.fuse (token :: others) tokens =
            token :: seamed Token.fuse others tokens := by
          intro tokens
          by_cases none : others = []
          · apply seamed_cons_of_apart
            exact Token.fuse_of_kind_ne_text fun literal => seam ⟨none, literal⟩
          · exact seamed_cons none token tokens
        rw [scan_of_token (pull_append pulled goes_on behind), scanned,
          after_rest_of_pull pulled, Scan.behind, Scan.behind, fronts]

end Scanner

end Stencil
