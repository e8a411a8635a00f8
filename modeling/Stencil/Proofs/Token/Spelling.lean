import Stencil.Proofs.Text.Character
import Stencil.Proofs.Token.Literal
import Stencil.Token.Scan

/-! How tokens are spelled. A scanner gives a token exactly when the characters in front of it
are blanks, which stand in holes only, and then a spelling of the token that the characters
behind it do not prolong. -/

namespace Stencil

open Text Number

/-- A word character that is not a digit, with word characters behind it. -/
def IsName (letters : List Char) : Prop :=
  ∃ first rest, letters = first :: rest ∧ isWordStart first = true ∧ ∀ c ∈ rest, isWord c = true

theorem IsName.nonempty {letters : List Char} (name : IsName letters) : letters ≠ [] := by
  obtain ⟨first, rest, rfl, -⟩ := name
  exact List.cons_ne_nil first rest

theorem IsName.isWord {letters : List Char} (name : IsName letters) :
    ∀ c ∈ letters, isWord c = true := by
  obtain ⟨first, rest, rfl, start, others⟩ := name
  exact List.forall_mem_cons.mpr ⟨isWord_of_isWordStart start, others⟩

/-- Digits of a number that a literal can stand for. -/
structure IsNumeral (digits : List Char) : Prop where
  nonempty : digits ≠ []
  digital : ∀ c ∈ digits, isDigit c = true
  short : digits.length ≤ greatestDigitCount
  small : ofDigits digits ≤ greatestNumber

/-- Characters that can stand together outside holes on one line. -/
structure IsPlain (text : List Char) : Prop where
  nonempty : text ≠ []
  unbroken : ∀ c ∈ text, c ≠ '{' ∧ c ≠ '\n'

/-- The next character, if there is one, does not belong to a run. -/
def Stops (belongs : Char → Bool) (following : List Char) : Prop :=
  ∀ c, following.head? = some c → belongs c = false

/-- A carriage return at the end of the text would make a line end with what follows. -/
def Fuses (text following : List Char) : Prop :=
  text.getLast? = some '\r' ∧ following.head? = some '\n'

/-- The characters of a token of a kind, read in one mode in front of others and leading to
another mode. -/
inductive Spells : Mode → TokenKind → List Char → List Char → Mode → Prop where
  | endOfInput : Spells .text .endOfInput [] [] .finished
  | openHole (following : List Char) : Spells .text .openHole ['{'] following .hole
  | lineFeed (following : List Char) : Spells .text .lineBreak ['\n'] following .text
  | returnLineFeed (following : List Char) :
      Spells .text .lineBreak ['\r', '\n'] following .text
  | text {lexeme following : List Char} (plain : IsPlain lexeme) (apart : ¬Fuses lexeme following)
      (ends : endsText following = true) : Spells .text .text lexeme following .text
  | closeHole (following : List Char) : Spells .hole .closeHole ['}'] following .text
  | punctuation {c : Char} {kind : TokenKind} (mark : punctuation? c = some kind)
      (following : List Char) : Spells .hole kind [c] following .hole
  | string (value : List Char) {following : List Char} (single : following.head? ≠ some '\'') :
      Spells .hole .string (Literal.encoded value) following .hole
  | number {digits following : List Char} (numeral : IsNumeral digits)
      (stops : Stops isDigit following) : Spells .hole .number digits following .hole
  | identifier {letters following : List Char} (name : IsName letters)
      (stops : Stops isWord following) : Spells .hole .identifier letters following .hole

/-- A scanner that gives a token, and the scanner behind it. -/
inductive Pulls : Scanner → Token → Scanner → Prop where
  | intro {mode next : Mode} {kind : TokenKind} {lexeme following blanks : List Char}
      (position : Position) (gap : ∀ c ∈ blanks, isInlineBlank c = true)
      (inHole : blanks ≠ [] → mode = .hole) (spelled : Spells mode kind lexeme following next) :
      Pulls ⟨mode, position, blanks ++ (lexeme ++ following)⟩
        ⟨kind, String.ofList lexeme, position.after blanks⟩
        ⟨next, (position.after blanks).after lexeme, following⟩

theorem Pulls.spells {scanner next : Scanner} {token : Token} (pulls : Pulls scanner token next) :
    Spells scanner.mode token.kind token.lexeme.toList next.rest next.mode := by
  cases pulls with
  | intro position gap inHole spelled =>
    rw [String.toList_ofList]
    exact spelled

/-- The failures of a text that has no tokens somewhere. -/
inductive IsLexical : Failure → Prop where
  | cause (cause : LexicalCause) (position : Position) :
      IsLexical (.template (.lexical cause position))
  | numberTooLong (digits : Nat) : IsLexical (.numberTooLong digits)

/-- How reading fails in front of some characters of a hole: for a cause that is reported there, or
because a number has too many digits. -/
inductive FailsAt (position : Position) : List Char → Failure → Prop where
  | cause (cause : LexicalCause) (text : List Char) :
      FailsAt position text (.template (.lexical cause position))
  | numberTooLong {digits following : List Char} (digital : ∀ c ∈ digits, isDigit c = true)
      (stops : Stops isDigit following) (long : greatestDigitCount < digits.length) :
      FailsAt position (digits ++ following) (.numberTooLong digits.length)

theorem FailsAt.isLexical {position : Position} {text : List Char} {failure : Failure}
    (fails : FailsAt position text failure) : IsLexical failure := by
  cases fails with
  | cause cause => exact .cause cause position
  | @numberTooLong digits => exact .numberTooLong digits.length

/-! ### Runs of characters -/

theorem takeWhile_append_of_stops {belongs : Char → Bool} {run following : List Char}
    (inside : ∀ c ∈ run, belongs c = true) (stops : Stops belongs following) :
    (run ++ following).takeWhile belongs = run := by
  rw [List.takeWhile_append_of_pos inside]
  cases following with
  | nil => simp
  | cons c rest => simp [stops c rfl]

theorem dropWhile_append_of_stops {belongs : Char → Bool} {run following : List Char}
    (inside : ∀ c ∈ run, belongs c = true) (stops : Stops belongs following) :
    (run ++ following).dropWhile belongs = following := by
  rw [List.dropWhile_append_of_pos inside]
  cases following with
  | nil => rfl
  | cons c rest => simp [stops c rfl]

theorem stops_dropWhile (belongs : Char → Bool) (text : List Char) :
    Stops belongs (text.dropWhile belongs) := by
  intro c first
  have kept := List.head?_dropWhile_not belongs text
  rw [first] at kept
  simpa using kept

theorem mem_takeWhile {belongs : Char → Bool} {text : List Char} {c : Char}
    (member : c ∈ text.takeWhile belongs) : belongs c = true :=
  List.all_eq_true.mp (List.all_takeWhile (l := text)) c member

/-! ### Literal text -/

theorem not_fuses_of_cons {c : Char} {rest following : List Char}
    (apart : ¬Fuses (c :: rest) following) : ¬Fuses rest following := by
  rintro ⟨last, broken⟩
  refine apart ⟨?_, broken⟩
  rw [List.getLast?_cons, last, Option.getD_some]

theorem textLength_append {lexeme following : List Char}
    (unbroken : ∀ c ∈ lexeme, c ≠ '{' ∧ c ≠ '\n') (apart : ¬Fuses lexeme following)
    (ends : endsText following = true) : textLength (lexeme ++ following) = lexeme.length := by
  induction lexeme with
  | nil =>
    cases following with
    | nil => rfl
    | cons c rest => simp only [List.nil_append, textLength, ends, if_true, List.length_nil]
  | cons c rest ih =>
    have inside := unbroken c List.mem_cons_self
    have goes_on : endsText (c :: (rest ++ following)) = false := by
      have lone : ¬(c = '\r' ∧ (rest ++ following).head? = some '\n') := by
        rintro ⟨rfl, broken⟩
        cases rest with
        | nil => exact apart ⟨rfl, broken⟩
        | cons d more =>
          simp only [List.cons_append, List.head?_cons, Option.some.injEq] at broken
          exact (unbroken d (by simp)).2 broken
      simpa [endsText, inside.1, inside.2] using lone
    have length := ih (fun d member => unbroken d (List.mem_cons_of_mem c member))
      (not_fuses_of_cons apart)
    simp only [List.cons_append, textLength, goes_on, Bool.false_eq_true, if_false, length,
      List.length_cons]

/-- Where literal text is cut. -/
theorem exists_text_append (text : List Char) : ∃ lexeme following, text = lexeme ++ following ∧
    textLength text = lexeme.length ∧ (∀ c ∈ lexeme, c ≠ '{' ∧ c ≠ '\n') ∧
    ¬Fuses lexeme following ∧ endsText following = true := by
  induction text with
  | nil => exact ⟨[], [], rfl, rfl, by simp, by simp [Fuses], rfl⟩
  | cons c rest ih =>
    cases ends : endsText (c :: rest) with
    | true => exact ⟨[], c :: rest, rfl, by simp [textLength, ends], by simp, by simp [Fuses], ends⟩
    | false =>
      obtain ⟨lexeme, following, rfl, length, unbroken, apart, stop⟩ := ih
      have first : (c ≠ '{' ∧ c ≠ '\n') ∧
          ¬(c = '\r' ∧ (lexeme ++ following).head? = some '\n') := by
        simpa [endsText, and_assoc] using ends
      refine ⟨c :: lexeme, following, rfl, ?_, ?_, ?_, stop⟩
      · simp only [textLength, ends, Bool.false_eq_true, if_false, length, List.length_cons]
      · intro d member
        rcases List.mem_cons.mp member with rfl | later
        · exact first.1
        · exact unbroken d later
      · rintro ⟨last, broken⟩
        cases lexeme with
        | nil => exact first.2 ⟨Option.some.inj last, broken⟩
        | cons d more => exact apart ⟨by rwa [List.getLast?_cons_cons] at last, broken⟩

/-! ### From spellings to tokens -/

namespace Scanner

theorem take_append (mode next : Mode) (position : Position) (kind : TokenKind)
    (lexeme following : List Char) :
    Scanner.take ⟨mode, position, lexeme ++ following⟩ kind lexeme.length next =
      .token ⟨kind, String.ofList lexeme, position⟩
        ⟨next, position.after lexeme, following⟩ := by
  simp [take]

theorem pullText_of_spells {kind : TokenKind} {lexeme following : List Char} {next : Mode}
    (spelled : Spells .text kind lexeme following next) (position : Position) :
    pullText ⟨.text, position, lexeme ++ following⟩ =
      .token ⟨kind, String.ofList lexeme, position⟩
        ⟨next, position.after lexeme, following⟩ := by
  cases spelled with
  | endOfInput => rfl
  | openHole => exact take_append .text .hole position .openHole ['{'] following
  | lineFeed => exact take_append .text .text position .lineBreak ['\n'] following
  | returnLineFeed => exact take_append .text .text position .lineBreak ['\r', '\n'] following
  | text plain apart ends =>
    obtain ⟨c, rest, rfl⟩ := List.exists_cons_of_ne_nil plain.nonempty
    have inside := plain.unbroken c List.mem_cons_self
    have lone : ¬(c = '\r' ∧ (rest ++ following).head? = some '\n') := by
      rintro ⟨rfl, broken⟩
      cases rest with
      | nil => exact apart ⟨rfl, broken⟩
      | cons d more =>
        exact (plain.unbroken d (by simp)).2 (Option.some.inj broken)
    have length := textLength_append plain.unbroken apart ends
    simp only [pullText, List.cons_append]
    rw [if_neg inside.1, if_neg inside.2, if_neg (by simpa using lone)]
    simp only [List.cons_append] at length
    rw [length]
    exact take_append .text .text position .text (c :: rest) following

theorem mark_of_punctuation {c : Char} {kind : TokenKind} (mark : punctuation? c = some kind) :
    c = '(' ∧ kind = .openParen ∨ c = ')' ∧ kind = .closeParen ∨ c = ',' ∧ kind = .comma ∨
      c = '|' ∧ kind = .pipe := by
  unfold punctuation? at mark
  split at mark <;> cases mark <;> simp

theorem punctuation_of_isWord {c : Char} (word : isWord c = true) : punctuation? c = none := by
  cases mark : punctuation? c with
  | none => rfl
  | some kind =>
    have other : isWord c = false := by
      rcases mark_of_punctuation mark with ⟨rfl, -⟩ | ⟨rfl, -⟩ | ⟨rfl, -⟩ | ⟨rfl, -⟩ <;> decide
    rw [other] at word
    cases word

/-- Only what stands in a hole begins behind blanks, so it does not begin with one. -/
theorem exists_cons_of_spells {kind : TokenKind} {lexeme following : List Char} {next : Mode}
    (spelled : Spells .hole kind lexeme following next) :
    ∃ c rest, lexeme = c :: rest ∧ isInlineBlank c = false := by
  cases spelled with
  | closeHole => exact ⟨'}', [], rfl, by decide⟩
  | punctuation mark =>
    refine ⟨_, [], rfl, ?_⟩
    rcases mark_of_punctuation mark with ⟨rfl, -⟩ | ⟨rfl, -⟩ | ⟨rfl, -⟩ | ⟨rfl, -⟩ <;> decide
  | string value => exact ⟨'\'', _, rfl, by decide⟩
  | number numeral =>
    obtain ⟨c, rest, rfl⟩ := List.exists_cons_of_ne_nil numeral.nonempty
    have digit := numeral.digital c List.mem_cons_self
    exact ⟨c, rest, rfl, isInlineBlank_of_isWord (isWord_of_isDigit digit)⟩
  | identifier name =>
    obtain ⟨first, rest, rfl, start, -⟩ := name
    exact ⟨first, rest, rfl, isInlineBlank_of_isWord (isWord_of_isWordStart start)⟩

theorem pullHole_of_isWord {c : Char} (word : isWord c = true) (mode : Mode) (position : Position)
    (rest : List Char) :
    pullHole ⟨mode, position, c :: rest⟩ =
      if isDigit c then pullNumber ⟨mode, position, c :: rest⟩ ((c :: rest).takeWhile isDigit)
      else if isWordStart c then
        Scanner.take ⟨mode, position, c :: rest⟩ .identifier
          ((c :: rest).takeWhile isWord).length .hole
      else fail ⟨mode, position, c :: rest⟩ (.strayInHole c) := by
  have different : ∀ mark, isWord mark = false → c ≠ mark := by
    rintro mark other rfl
    rw [word] at other
    cases other
  simp only [pullHole, punctuation_of_isWord word, different '}' (by decide),
    different '\r' (by decide), different '\n' (by decide), different '\'' (by decide),
    decide_false, Bool.or_self, Bool.false_eq_true, if_false]

theorem pullHole_of_spells {kind : TokenKind} {lexeme following : List Char} {next : Mode}
    (spelled : Spells .hole kind lexeme following next) (position : Position) :
    pullHole ⟨.hole, position, lexeme ++ following⟩ =
      .token ⟨kind, String.ofList lexeme, position⟩
        ⟨next, position.after lexeme, following⟩ := by
  cases spelled with
  | closeHole => exact take_append .hole .text position .closeHole ['}'] following
  | @punctuation c _ mark =>
    have different : c ≠ '}' := by
      rintro rfl
      cases mark
    simp only [pullHole, List.cons_append, List.nil_append, if_neg different, mark]
    exact take_append .hole .hole position kind [c] following
  | string value single =>
    have closed := Literal.closing_double value single
    have length : (Literal.encoded value).length = (Literal.double value).length + 1 + 1 := by
      simp [Literal.encoded]
    have taken := take_append .hole .hole position .string (Literal.encoded value) following
    rw [length] at taken
    simp only [Literal.encoded, List.cons_append, List.append_assoc, List.nil_append] at taken ⊢
    simp only [pullHole, closed]
    exact taken
  | number numeral stops =>
    obtain ⟨c, rest, rfl⟩ := List.exists_cons_of_ne_nil numeral.nonempty
    have digit := numeral.digital c List.mem_cons_self
    have run := takeWhile_append_of_stops numeral.digital stops
    rw [List.cons_append] at run ⊢
    rw [pullHole_of_isWord (isWord_of_isDigit digit), if_pos digit, run, pullNumber,
      if_neg (Nat.not_lt.mpr numeral.short), if_neg (Nat.not_lt.mpr numeral.small)]
    exact take_append .hole .hole position .number (c :: rest) following
  | identifier name stops =>
    have run := takeWhile_append_of_stops name.isWord stops
    obtain ⟨first, rest, rfl, start, -⟩ := name
    rw [List.cons_append] at run ⊢
    rw [pullHole_of_isWord (isWord_of_isWordStart start), isDigit_of_isWordStart start, if_neg Bool.false_ne_true,
      if_pos start, run]
    exact take_append .hole .hole position .identifier (first :: rest) following

theorem skipBlanks_append {blanks : List Char} (gap : ∀ c ∈ blanks, isInlineBlank c = true)
    {first : Char} (visible : isInlineBlank first = false) (mode : Mode) (position : Position)
    (rest : List Char) :
    skipBlanks ⟨mode, position, blanks ++ first :: rest⟩ =
      ⟨mode, position.after blanks, first :: rest⟩ := by
  have stops : Stops isInlineBlank (first :: rest) := by
    intro c same
    cases same
    exact visible
  simp only [skipBlanks, takeWhile_append_of_stops gap stops, dropWhile_append_of_stops gap stops]

/-- Every spelling is read as its token. -/
theorem pull_of_pulls {scanner next : Scanner} {token : Token} (pulls : Pulls scanner token next) :
    scanner.pull = .token token next := by
  obtain ⟨position, gap, inHole, spelled⟩ := pulls
  rename_i mode last kind lexeme following blanks
  cases mode with
  | text =>
    have none : blanks = [] := by
      cases blanks with
      | nil => rfl
      | cons c rest => cases inHole (List.cons_ne_nil c rest)
    subst none
    exact pullText_of_spells spelled position
  | hole =>
    have read := pullHole_of_spells spelled (position.after blanks)
    obtain ⟨c, rest, rfl, visible⟩ := exists_cons_of_spells spelled
    simp only [List.cons_append] at read ⊢
    rw [pull, skipBlanks_append gap visible]
    exact read
  | finished => cases spelled

/-! ### From tokens to spellings -/

/-- Outside holes there is always a token. -/
theorem exists_spells_text (text : List Char) : ∃ kind lexeme following next,
    text = lexeme ++ following ∧ Spells .text kind lexeme following next := by
  obtain ⟨lexeme, following, rfl, -, unbroken, apart, ends⟩ := exists_text_append text
  cases lexeme with
  | cons c rest =>
    exact ⟨_, _, _, _, rfl, .text ⟨List.cons_ne_nil c rest, unbroken⟩ apart ends⟩
  | nil =>
    cases following with
    | nil => exact ⟨_, _, _, _, rfl, .endOfInput⟩
    | cons c rest =>
      simp only [endsText, Bool.or_eq_true, Bool.and_eq_true, beq_iff_eq] at ends
      rcases ends with (rfl | rfl) | ⟨rfl, broken⟩
      · exact ⟨_, ['{'], rest, _, rfl, .openHole rest⟩
      · exact ⟨_, ['\n'], rest, _, rfl, .lineFeed rest⟩
      · obtain ⟨more, rfl⟩ := List.head?_eq_some_iff.mp broken
        exact ⟨_, ['\r', '\n'], more, _, rfl, .returnLineFeed more⟩

theorem pullNumber_cases (mode : Mode) (position : Position) {digits following : List Char}
    (nonempty : digits ≠ []) (digital : ∀ c ∈ digits, isDigit c = true)
    (stops : Stops isDigit following) :
    IsNumeral digits ∨
      ∃ failure, pullNumber ⟨mode, position, digits ++ following⟩ digits = .failed failure ∧
        FailsAt position (digits ++ following) failure := by
  by_cases long : greatestDigitCount < digits.length
  · right
    rw [pullNumber, if_pos long]
    exact ⟨_, rfl, .numberTooLong digital stops long⟩
  by_cases great : greatestNumber < ofDigits digits
  · right
    rw [pullNumber, if_neg long, if_pos great]
    exact ⟨_, rfl, .cause _ _⟩
  · left
    exact ⟨nonempty, digital, Nat.le_of_not_lt long, Nat.le_of_not_lt great⟩

/-- In a hole a token is spelled next, or the text fails there. -/
theorem pullHole_cases (mode : Mode) (position : Position) (text : List Char) :
    (∃ kind lexeme following next, text = lexeme ++ following ∧
      Spells .hole kind lexeme following next) ∨
    ∃ failure, pullHole ⟨mode, position, text⟩ = .failed failure ∧
      FailsAt position text failure := by
  cases text with
  | nil => exact .inr ⟨_, rfl, .cause _ _⟩
  | cons c rest =>
    by_cases closing : c = '}'
    · subst closing
      exact .inl ⟨_, ['}'], rest, _, rfl, .closeHole rest⟩
    cases mark : punctuation? c with
    | some kind => exact .inl ⟨kind, [c], rest, _, rfl, .punctuation mark rest⟩
    | none =>
      simp only [pullHole, if_neg closing, mark]
      by_cases broken : (c = '\r' || c = '\n') = true
      · rw [if_pos broken]
        exact .inr ⟨_, rfl, .cause _ _⟩
      rw [if_neg broken]
      by_cases quote : c = '\''
      · subst quote
        rw [if_pos rfl]
        cases closed : Literal.closing rest with
        | none => exact .inr ⟨_, rfl, .cause _ _⟩
        | some count =>
          obtain ⟨value, following, rfl, -, single⟩ := Literal.eq_double_of_closing closed
          refine .inl ⟨_, _, following, _, ?_, .string value single⟩
          simp [Literal.encoded]
      rw [if_neg quote]
      by_cases digit : isDigit c = true
      · rw [if_pos digit]
        have nonempty : (c :: rest).takeWhile isDigit ≠ [] :=
          List.ne_nil_of_length_pos (takeWhile_length_pos digit)
        have stops := stops_dropWhile isDigit (c :: rest)
        have cut := List.takeWhile_append_dropWhile (p := isDigit) (l := c :: rest)
        rcases pullNumber_cases mode position nonempty (fun d => mem_takeWhile) stops with
          numeral | failed
        · exact .inl ⟨_, _, _, _, cut.symm, .number numeral stops⟩
        · rw [cut] at failed
          exact .inr failed
      rw [if_neg digit]
      by_cases start : isWordStart c = true
      · have name : IsName ((c :: rest).takeWhile isWord) := by
          refine ⟨c, rest.takeWhile isWord, ?_, start, fun d => mem_takeWhile⟩
          rw [List.takeWhile_cons_of_pos (isWord_of_isWordStart start)]
        exact .inl ⟨_, _, _, _, List.takeWhile_append_dropWhile.symm,
          .identifier name (stops_dropWhile isWord (c :: rest))⟩
      · rw [if_neg start]
        exact .inr ⟨_, rfl, .cause _ _⟩

/-- Every token is read from one of its spellings. -/
theorem pulls_of_pull {scanner next : Scanner} {token : Token}
    (pulled : scanner.pull = .token token next) : Pulls scanner token next := by
  obtain ⟨mode, position, rest⟩ := scanner
  -- A spelling in front determines the token, so it is enough to find one.
  have settle : ∀ (blanks : List Char) {lexeme following : List Char} {kind : TokenKind}
      {last : Mode}, rest = blanks ++ (lexeme ++ following) →
      (∀ c ∈ blanks, isInlineBlank c = true) →
      (blanks ≠ [] → mode = .hole) → Spells mode kind lexeme following last →
      Pulls ⟨mode, position, rest⟩ token next := by
    rintro blanks lexeme following kind last rfl gap inHole spelled
    have pulls := Pulls.intro position gap inHole spelled
    rw [pull_of_pulls pulls] at pulled
    cases pulled
    exact pulls
  cases mode with
  | text =>
    obtain ⟨kind, lexeme, following, last, rfl, spelled⟩ := exists_spells_text rest
    exact settle [] rfl (by simp) (by simp) spelled
  | hole =>
    rcases pullHole_cases .hole (position.after (rest.takeWhile isInlineBlank))
      (rest.dropWhile isInlineBlank) with ⟨kind, lexeme, following, last, same, spelled⟩ | failed
    · apply settle (rest.takeWhile isInlineBlank) _ (fun c => mem_takeWhile) (fun _ => rfl) spelled
      rw [← same, List.takeWhile_append_dropWhile]
    · obtain ⟨failure, failed, -⟩ := failed
      exact absurd (failed.symm.trans pulled) Pull.noConfusion
  | finished => cases pulled

end Scanner

end Stencil
