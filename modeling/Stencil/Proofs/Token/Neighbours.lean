import Stencil.Proofs.Token.Scanning

/-! Tokens of one scan beside each other. Every one is spelled in the way of its kind, in front of whatever
begins in the same way or with a blank, and no text follows another. -/

namespace Stencil

open Text Number

/-- A token as it is read somewhere. -/
def Token.IsSpelled (token : Token) : Prop :=
  ∃ mode following next, Spells mode token.kind token.lexeme.toList following next

/-- No two texts stand next to each other. -/
def TextsApart : List Token → Prop
  | [] => True
  | token :: rest =>
    (token.kind = .text → ∀ next ∈ rest.head?, next.kind ≠ .text) ∧ TextsApart rest

theorem TextsApart.of_append_right {front back : List Token} (apart : TextsApart (front ++ back)) :
    TextsApart back := by
  induction front with
  | nil => exact apart
  | cons token rest ih => exact ih apart.2

theorem TextsApart.of_append_left {front back : List Token} (apart : TextsApart (front ++ back)) :
    TextsApart front := by
  induction front with
  | nil => trivial
  | cons token rest ih =>
    rw [List.cons_append] at apart
    refine ⟨fun text next member => apart.1 text next ?_, ih apart.2⟩
    rw [List.head?_append, Option.mem_def.mp member, Option.some_or]
    rfl

/-- Characters that begin as those that follow do, or with a blank, if there are any. -/
def BeginsAs (following other : List Char) : Prop :=
  ∀ c, other.head? = some c → following.head? = some c ∨ isInlineBlank c = true

theorem BeginsAs.append_left {following other : List Char} (begins : BeginsAs following other)
    (front : List Char) : BeginsAs (front ++ following) (front ++ other) := by
  cases front with
  | nil => exact begins
  | cons c rest => exact fun d first => .inl first

theorem Stops.of_beginsAs {belongs : Char → Bool} {following other : List Char}
    (stops : Stops belongs following) (visible : ∀ c, belongs c = true → isInlineBlank c = false)
    (begins : BeginsAs following other) : Stops belongs other := by
  intro c first
  cases inside : belongs c with
  | false => rfl
  | true =>
    rcases begins c first with same | blank
    · rw [stops c same] at inside
      cases inside
    · rw [visible c inside] at blank
      cases blank

theorem BeginsAs.head_ne {following other : List Char} (begins : BeginsAs following other) {c : Char}
    (visible : isInlineBlank c = false) (apart : following.head? ≠ some c) : other.head? ≠ some c := by
  intro first
  rcases begins c first with same | blank
  · exact apart same
  · rw [visible] at blank
    cases blank

namespace Spells

variable {mode next : Mode} {kind : TokenKind} {lexeme following : List Char}

/-- What follows a token may be something else that begins in the same way or with a blank. Only a text
looks further. -/
theorem in_front_of (spelled : Spells mode kind lexeme following next) {other : List Char}
    (begins : BeginsAs following other) (last : kind = .endOfInput → other = [])
    (ends : kind = .text → endsText other = true) : Spells mode kind lexeme other next := by
  cases spelled with
  | endOfInput =>
    rw [last rfl]
    exact .endOfInput
  | openHole => exact .openHole other
  | lineFeed => exact .lineFeed other
  | returnLineFeed => exact .returnLineFeed other
  | text plain apart =>
    refine .text plain (fun fuses => ?_) (ends rfl)
    exact begins.head_ne (by decide) (fun broken => apart ⟨fuses.1, broken⟩) fuses.2
  | closeHole => exact .closeHole other
  | punctuation mark => exact .punctuation mark other
  | string value single => exact .string value (begins.head_ne (by decide) single)
  | number numeral stops =>
    exact .number numeral (stops.of_beginsAs
      (fun _ digit => isInlineBlank_of_isWord (isWord_of_isDigit digit)) begins)
  | identifier name stops =>
    exact .identifier name (stops.of_beginsAs (fun _ => isInlineBlank_of_isWord) begins)

theorem isNumeral (spelled : Spells mode .number lexeme following next) : IsNumeral lexeme := by
  cases spelled with
  | number numeral => exact numeral
  | punctuation mark => simpa using Scanner.mark_of_punctuation mark

theorem isName (spelled : Spells mode .identifier lexeme following next) : IsName lexeme := by
  cases spelled with
  | identifier name => exact name
  | punctuation mark => simpa using Scanner.mark_of_punctuation mark

/-- A text is plain, and ends where outside holes no other text begins. -/
theorem of_text (spelled : Spells mode .text lexeme following next) :
    IsPlain lexeme ∧ endsText following = true ∧ next = .text := by
  cases spelled with
  | text plain apart ends => exact ⟨plain, ends, rfl⟩
  | punctuation mark => simpa using Scanner.mark_of_punctuation mark

theorem textLength_of_endsText {text : List Char} (ends : endsText text = true) :
    textLength text = 0 := by
  cases text with
  | nil => rfl
  | cons c rest => simp only [textLength, ends, if_true]

/-- Outside holes, only what is no text ends a text before it. -/
theorem endsText_of_kind_ne_text (spelled : Spells .text kind lexeme following next)
    (other : kind ≠ .text) : endsText (lexeme ++ following) = true := by
  cases spelled with
  | text => exact absurd rfl other
  | _ => rfl

theorem kind_ne_text (spelled : Spells .text kind lexeme following next)
    (ends : endsText (lexeme ++ following) = true) : kind ≠ .text := by
  rintro rfl
  cases spelled with
  | text plain apart stop =>
    have length := textLength_append plain.unbroken apart stop
    rw [textLength_of_endsText ends] at length
    exact plain.nonempty (List.eq_nil_of_length_eq_zero length.symm)

end Spells

/-- Outside holes a token begins at once. -/
theorem Pulls.of_text {position : Position} {text : List Char} {token : Token} {next : Scanner}
    (pulls : Pulls ⟨.text, position, text⟩ token next) :
    token.position = position ∧ text = token.lexeme.toList ++ next.rest ∧
      Spells .text token.kind token.lexeme.toList next.rest next.mode := by
  cases pulls with
  | @intro _ _ _ lexeme following blanks _ gap inHole spelled =>
    cases blanks with
    | nil => exact ⟨rfl, by simp, by simpa using spelled⟩
    | cons c rest => cases inHole (List.cons_ne_nil c rest)

namespace Scanner

theorem isSpelled_of_mem_scan {scanner : Scanner} {token : Token}
    (member : token ∈ scanner.scan.tokens) : token.IsSpelled := by
  induction scanner using scan.induct with
  | case1 scanner first next pulled ih =>
    rw [scan_of_token pulled] at member
    rcases List.mem_cons.mp member with rfl | later
    · obtain ⟨position, gap, inHole, spelled⟩ := pulls_of_pull pulled
      exact ⟨_, _, _, by simpa using spelled⟩
    · exact ih later
  | case2 scanner found pulled => simp [scan_of_failed pulled] at member
  | case3 scanner pulled => simp [scan_of_exhausted pulled] at member

/-- Outside holes the first token stands where the scanner does. -/
theorem position_of_scan {position : Position} {text : List Char} {token : Token}
    {rest : List Token} (scanned : (scan ⟨.text, position, text⟩).tokens = token :: rest) :
    token.position = position := by
  cases pulled : pull ⟨.text, position, text⟩ with
  | token found next =>
    rw [scan_of_token pulled] at scanned
    cases scanned
    exact (pulls_of_pull pulled).of_text.1
  | failed failure => simp [scan_of_failed pulled] at scanned
  | exhausted => simp [scan_of_exhausted pulled] at scanned

theorem textsApart_of_scan (scanner : Scanner) : TextsApart scanner.scan.tokens := by
  induction scanner using scan.induct with
  | case1 scanner token next pulled ih =>
    rw [scan_of_token pulled]
    refine ⟨fun text following member => ?_, ih⟩
    have ends : next.mode = .text ∧ endsText next.rest = true := by
      obtain ⟨position, gap, inHole, spelled⟩ := pulls_of_pull pulled
      obtain rfl : _ = TokenKind.text := text
      obtain ⟨-, ends, mode⟩ := spelled.of_text
      exact ⟨mode, ends⟩
    obtain ⟨mode, place, rest⟩ := next
    obtain ⟨rfl, ends⟩ := ends
    cases again : pull ⟨.text, place, rest⟩ with
    | token found behind =>
      rw [scan_of_token again] at member
      cases member
      obtain ⟨-, rfl, spelled⟩ := (pulls_of_pull again).of_text
      exact spelled.kind_ne_text ends
    | failed failure => simp [scan_of_failed again] at member
    | exhausted => simp [scan_of_exhausted again] at member
  | case2 scanner found pulled => rw [scan_of_failed pulled]; trivial
  | case3 scanner pulled => rw [scan_of_exhausted pulled]; trivial

end Scanner

end Stencil
