import Stencil.Proofs.Concatenation.Scanning

/-! Scanning on from a hole that is still open. Where a text ends inside a hole, the scanner goes on with
more text as a new scanner would there, unless the last token is prolonged. So the text before a number
can be scanned on its own, which tells whether the scan of the whole text comes to that number. -/

namespace Stencil

open Text Number

/-- The scanner has tokens up to the end of its text, where a hole is still open. -/
def Scanner.EndsOpen (scanner : Scanner) : Prop :=
  scanner.scan.failure =
    some (.template (.lexical .unterminatedHole (scanner.position.after scanner.rest)))

/-- A text ends neither in a name nor in a number. -/
def EndsApart (text : List Char) : Prop := ∀ c ∈ text.getLast?, isWord c = false

/-- A whole run of digits, which what follows does not prolong. -/
structure IsDigitRun (digits following : List Char) : Prop where
  nonempty : digits ≠ []
  digital : ∀ c ∈ digits, isDigit c = true
  stops : Stops isDigit following

/-- Digits that the scan of a text comes to as a number: what stands before them, as a text of its own,
has tokens up to its end, inside a hole, and none of them goes on with the digits. -/
structure NumberAt (text before digits : List Char) : Prop where
  run : ∃ following, text = before ++ (digits ++ following) ∧ IsDigitRun digits following
  opened : (Scanner.ofText before).EndsOpen
  apart : EndsApart before

namespace EndsApart

variable {front back : List Char}

theorem of_append (apart : EndsApart (front ++ back)) (nonempty : back ≠ []) : EndsApart back := by
  rwa [EndsApart, List.getLast?_append_of_ne_nil front nonempty] at apart

theorem of_mark {c : Char} (mark : isWord c = false) : EndsApart [c] := by
  rintro d ⟨⟩
  exact mark

theorem append (apart : EndsApart back) (nonempty : back ≠ []) (front : List Char) :
    EndsApart (front ++ back) := by
  rwa [EndsApart, List.getLast?_append_of_ne_nil front nonempty]

theorem not_of_isWord {letters : List Char} (nonempty : letters ≠ [])
    (word : ∀ c ∈ letters, isWord c = true) : ¬EndsApart letters := by
  intro apart
  have last := apart _ (List.getLast?_eq_some_getLast nonempty)
  rw [word _ (List.getLast_mem nonempty)] at last
  cases last

theorem of_blank {gap : List Char} (blank : ∀ c ∈ gap, isInlineBlank c = true) : EndsApart gap := by
  intro c last
  cases word : isWord c with
  | false => rfl
  | true =>
    rw [← blank c (List.mem_of_getLast? last), isInlineBlank_of_isWord word]

end EndsApart

/-! ### Spellings with more or less behind them -/

theorem endsText_of_append {front behind : List Char} (ends : endsText (front ++ behind) = true)
    (apart : ¬Fuses front behind) : endsText front = true := by
  match front with
  | [] => rfl
  | [c] =>
    have lone : ¬(c = '\r' ∧ behind.head? = some '\n') := by simpa [Fuses] using apart
    simpa [endsText, lone] using ends
  | c :: d :: rest => simpa [endsText] using ends

namespace Spells

variable {mode next : Mode} {kind : TokenKind} {lexeme : List Char}

/-- What does not prolong the last token of a hole may follow it. -/
theorem append_of_endsApart (spelled : Spells mode kind lexeme [] .hole) (apart : EndsApart lexeme)
    {behind : List Char} (single : behind.head? ≠ some '\'') :
    Spells mode kind lexeme behind .hole := by
  cases spelled with
  | openHole => exact .openHole behind
  | punctuation mark => exact .punctuation mark behind
  | string value => exact .string value single
  | number numeral =>
    have word := fun c member => isWord_of_isDigit (numeral.digital c member)
    exact absurd apart (EndsApart.not_of_isWord numeral.nonempty word)
  | identifier name => exact absurd apart (EndsApart.not_of_isWord name.nonempty name.isWord)

/-- A token in front of a digit ends in no word character. -/
theorem endsApart_of_digit {c : Char} (digit : isDigit c = true) {rest : List Char}
    (spelled : Spells mode kind lexeme (c :: rest) next) : EndsApart lexeme := by
  have word := isWord_of_isDigit digit
  have different : ∀ mark, isWord mark = false → c ≠ mark := by
    rintro mark other rfl
    rw [word] at other
    cases other
  cases spelled with
  | text plain apart ends =>
    simp [endsText, different '{' (by decide), different '\n' (by decide),
      different '\r' (by decide)] at ends
  | @punctuation mark _ punctuation =>
    apply EndsApart.of_mark
    cases letter : isWord mark with
    | false => rfl
    | true =>
      rw [Scanner.punctuation_of_isWord letter] at punctuation
      cases punctuation
  | string value =>
    have quote : EndsApart ['\''] := .of_mark (by decide)
    exact quote.append (List.cons_ne_nil _ _) ('\'' :: Literal.double value)
  | number numeral stops =>
    rw [stops c rfl] at digit
    cases digit
  | identifier name stops =>
    rw [stops c rfl] at word
    cases word
  | openHole => exact .of_mark (by decide)
  | lineFeed => exact .of_mark (by decide)
  | returnLineFeed =>
    have lineFeed : EndsApart ['\n'] := .of_mark (by decide)
    exact lineFeed.append (List.cons_ne_nil _ _) ['\r']
  | closeHole => exact .of_mark (by decide)

/-- A token stays as it is with less behind it. -/
theorem of_append {front behind : List Char} (spelled : Spells mode kind lexeme (front ++ behind) next)
    (apart : ¬Fuses front behind) : Spells mode kind lexeme front next := by
  refine spelled.in_front_of (fun c first => .inl ?_) ?_ ?_
  · rw [List.head?_append, first, Option.some_or]
  · rintro rfl
    exact (List.append_eq_nil_iff.mp spelled.following_eq_nil.2).1
  · rintro rfl
    exact endsText_of_append spelled.of_text.2.1 apart

end Spells

namespace Scanner

variable {scanner next : Scanner} {token : Token}

theorem endsApart_of_pull (pulled : scanner.pull = .token token next)
    (apart : EndsApart scanner.rest) : EndsApart next.rest := by
  cases pulls_of_pull pulled with
  | @intro _ _ _ lexeme following blanks =>
    by_cases none : following = []
    · simp [none, EndsApart]
    · rw [← List.append_assoc] at apart
      exact apart.of_append none

theorem scan_congr {first second : Scanner} (same : first.pull = second.pull) :
    first.scan = second.scan := by
  cases pulled : second.pull with
  | token token next => rw [scan_of_token pulled, scan_of_token (same.trans pulled)]
  | failed failure => rw [scan_of_failed pulled, scan_of_failed (same.trans pulled)]
  | exhausted => rw [scan_of_exhausted pulled, scan_of_exhausted (same.trans pulled)]

/-! ### Nothing but blanks -/

theorem pull_of_blank {gap : List Char} (blank : ∀ c ∈ gap, isInlineBlank c = true)
    (position : Position) :
    pull ⟨.hole, position, gap⟩ =
      .failed (.template (.lexical .unterminatedHole (position.after gap))) := by
  have none : gap.dropWhile isInlineBlank = [] := List.dropWhile_eq_nil_iff.mpr blank
  have all : gap.takeWhile isInlineBlank = gap := List.takeWhile_eq_self_iff.mpr blank
  simp only [pull, skipBlanks, pullHole, none, all, fail]

/-- Blanks at the start of what is left of a hole might have been skipped already. -/
theorem pull_blank_append {gap : List Char} (blank : ∀ c ∈ gap, isInlineBlank c = true)
    (position : Position) (behind : List Char) :
    pull ⟨.hole, position, gap ++ behind⟩ = pull ⟨.hole, position.after gap, behind⟩ := by
  simp only [pull, skipBlanks, List.takeWhile_append_of_pos blank,
    List.dropWhile_append_of_pos blank, Position.after_append]

theorem rest_of_pullHole {place : Position}
    (pulled : scanner.pullHole = .failed (.template (.lexical .unterminatedHole place))) :
    scanner.rest = [] := by
  cases left : scanner.rest with
  | nil => rfl
  | cons c rest =>
    simp only [pullHole, left, take, fail, pullNumber] at pulled
    repeat' split at pulled
    all_goals cases pulled

/-- A hole is found unterminated where nothing but blanks is left of it. -/
theorem blank_of_pull {place : Position}
    (pulled : scanner.pull = .failed (.template (.lexical .unterminatedHole place))) :
    scanner.mode = .hole ∧ ∀ c ∈ scanner.rest, isInlineBlank c = true := by
  obtain ⟨mode, position, rest⟩ := scanner
  cases mode with
  | hole => exact ⟨rfl, List.dropWhile_eq_nil_iff.mp (rest_of_pullHole pulled)⟩
  | finished => cases pulled
  | text =>
    obtain ⟨kind, lexeme, following, last, rfl, spelled⟩ := exists_spells_text rest
    have read : pull ⟨.text, position, lexeme ++ following⟩ = _ :=
      pullText_of_spells spelled position
    rw [read] at pulled
    cases pulled

/-! ### More text behind an open hole -/

/-- Where the text ends behind a token, the token is one of the hole. -/
theorem mode_of_endsOpen (opened : scanner.EndsOpen) (none : scanner.rest = []) :
    scanner.mode = .hole := by
  obtain ⟨mode, position, rest⟩ := scanner
  obtain rfl : rest = [] := none
  cases mode with
  | hole => rfl
  | text =>
    have ended : pull ⟨.text, position, []⟩ = _ := pullText_of_spells .endOfInput position
    rw [EndsOpen, scan_of_token ended, scan_of_finished rfl] at opened
    cases opened
  | finished =>
    rw [EndsOpen, scan_of_finished rfl] at opened
    cases opened

/-- The token stays the same with more characters behind, and they are left to be read. -/
theorem pull_append_of_endsOpen (pulled : scanner.pull = .token token next)
    (opened : next.EndsOpen) (apart : EndsApart scanner.rest) {behind : List Char}
    (single : behind.head? ≠ some '\'') :
    pull ⟨scanner.mode, scanner.position, scanner.rest ++ behind⟩ =
      .token token ⟨next.mode, next.position, next.rest ++ behind⟩ := by
  by_cases none : next.rest = []
  · have within := mode_of_endsOpen opened none
    cases pulls_of_pull pulled with
    | @intro _ _ _ lexeme following blanks position gap inHole spelled =>
      obtain rfl : following = [] := none
      obtain rfl : _ = Mode.hole := within
      have nonempty : lexeme ≠ [] := by
        intro empty
        have last := spelled.endOfInput_iff.mp (spelled.lexeme_eq_nil_iff.mp empty)
        cases last
      rw [List.append_nil] at apart
      have longer := spelled.append_of_endsApart (apart.of_append nonempty) single
      have pulls := Pulls.intro position gap inHole longer
      rw [List.append_nil, List.append_assoc]
      exact pull_of_pulls pulls
  · exact pull_append pulled (fun empty => absurd empty none) behind

/-- A scanner that comes to the end of its text inside a hole goes on with more text as a new scanner
would there. -/
theorem scan_append_of_endsOpen {scanner : Scanner} (opened : scanner.EndsOpen)
    (apart : EndsApart scanner.rest) {behind : List Char} (single : behind.head? ≠ some '\'') :
    scan ⟨scanner.mode, scanner.position, scanner.rest ++ behind⟩ =
      ⟨scanner.scan.tokens ++ (scan ⟨.hole, scanner.position.after scanner.rest, behind⟩).tokens,
        (scan ⟨.hole, scanner.position.after scanner.rest, behind⟩).failure⟩ := by
  induction scanner using scan.induct with
  | case1 scanner token next pulled ih =>
    have openedNext : next.EndsOpen := by
      rw [EndsOpen, scan_of_token pulled, after_rest_of_pull pulled] at opened
      exact opened
    have apartNext := endsApart_of_pull pulled apart
    rw [scan_of_token (pull_append_of_endsOpen pulled openedNext apart single),
      ih openedNext apartNext, after_rest_of_pull pulled, scan_of_token pulled, List.cons_append]
  | case2 scanner failure pulled =>
    rw [EndsOpen, scan_of_failed pulled] at opened
    cases opened
    obtain ⟨mode, blank⟩ := blank_of_pull pulled
    rw [mode, scan_congr (pull_blank_append blank _ behind), scan_of_failed pulled,
      List.nil_append]
  | case3 scanner pulled =>
    rw [EndsOpen, scan_of_exhausted pulled] at opened
    cases opened

/-! ### Numbers -/

theorem pull_of_digits {digits following : List Char} (run : IsDigitRun digits following)
    (position : Position) :
    pull ⟨.hole, position, digits ++ following⟩ =
      pullNumber ⟨.hole, position, digits ++ following⟩ digits := by
  have taken := takeWhile_append_of_stops run.digital run.stops
  obtain ⟨c, rest, rfl⟩ := List.exists_cons_of_ne_nil run.nonempty
  have digit := run.digital c List.mem_cons_self
  have word := isWord_of_isDigit digit
  have visible := isInlineBlank_of_isWord word
  have skipped := skipBlanks_append (List.forall_mem_nil _) visible .hole position
    (rest ++ following)
  rw [List.cons_append] at taken ⊢
  simp only [List.nil_append, Position.after_nil] at skipped
  rw [pull, skipped, pullHole_of_isWord word, if_pos digit, taken]

/-- The text before a number that is too long is one that ends in an open hole. -/
theorem exists_number_of_scan {count : Nat}
    (failed : scanner.scan.failure = some (.numberTooLong count)) :
    ∃ before digits following, scanner.rest = before ++ (digits ++ following) ∧
      IsDigitRun digits following ∧ greatestDigitCount < digits.length ∧ count = digits.length ∧
      EndsOpen ⟨scanner.mode, scanner.position, before⟩ ∧ EndsApart before := by
  induction scanner using scan.induct with
  | case1 scanner token next pulled ih =>
    rw [scan_of_token pulled] at failed
    obtain ⟨before, digits, following, rest, run, long, same, opened, apart⟩ := ih failed
    obtain ⟨c, others, rfl⟩ := List.exists_cons_of_ne_nil run.nonempty
    have digit := run.digital c List.mem_cons_self
    cases pulls_of_pull pulled with
    | @intro mode last kind lexeme _ blanks position gap inHole spelled =>
      obtain rfl : _ = before ++ (c :: others ++ following) := rest
      have separate : ¬Fuses before (c :: others ++ following) := by
        rintro ⟨-, ⟨⟩⟩
        cases digit
      have pulls := Pulls.intro position gap inHole (spelled.of_append separate)
      refine ⟨blanks ++ (lexeme ++ before), c :: others, following, ?_, run, long, same, ?_, ?_⟩
      · simp only [List.append_assoc]
      · rw [EndsOpen, scan_of_token (pull_of_pulls pulls)]
        rw [EndsOpen] at opened
        rw [opened, Position.after_append, Position.after_append]
      · rw [← List.append_assoc]
        by_cases none : before = []
        · subst none
          have nonempty : lexeme ≠ [] := by
            intro empty
            have kind := spelled.lexeme_eq_nil_iff.mp empty
            subst kind
            cases spelled.following_eq_nil.2
          rw [List.append_nil]
          exact (spelled.endsApart_of_digit digit).append nonempty blanks
        · exact apart.append none _
  | case2 scanner failure pulled =>
    rw [scan_of_failed pulled] at failed
    cases failed
    obtain ⟨gap, unread, skipped, mode, rest, fails⟩ := fails_of_pull pulled
    cases fails with
    | @numberTooLong digits following digital stops long =>
      have nonempty : digits ≠ [] := by
        rintro rfl
        exact Nat.not_lt_zero _ long
      refine ⟨gap, digits, following, rest, ⟨nonempty, digital, stops⟩, long, rfl, ?_,
        .of_blank skipped.blank⟩
      rw [mode, EndsOpen, scan_of_failed (pull_of_blank skipped.blank scanner.position)]
  | case3 scanner pulled =>
    rw [scan_of_exhausted pulled] at failed
    cases failed

end Scanner

theorem exists_numberAt_of_scan {text : String} {count : Nat}
    (failed : (scan text).failure = some (.numberTooLong count)) :
    ∃ before digits, NumberAt text.toList before digits ∧ greatestDigitCount < digits.length ∧
      count = digits.length := by
  obtain ⟨before, digits, following, whole, run, long, same, opened, apart⟩ :=
    Scanner.exists_number_of_scan failed
  exact ⟨before, digits, ⟨⟨following, whole, run⟩, opened, apart⟩, long, same⟩

/-- A number that the scan comes to is refused if it is too long or too great. -/
theorem failure_of_numberAt {text : String} {before digits : List Char}
    (number : NumberAt text.toList before digits) :
    (greatestDigitCount < digits.length →
      (scan text).failure = some (.numberTooLong digits.length)) ∧
    (digits.length ≤ greatestDigitCount → greatestNumber < ofDigits digits →
      (scan text).failure = some (.template
        (.lexical (.numberOutOfRange (String.ofList digits)) (.behind before)))) := by
  obtain ⟨⟨following, whole, run⟩, opened, apart⟩ := number
  have single : (digits ++ following).head? ≠ some '\'' := by
    obtain ⟨c, rest, rfl⟩ := List.exists_cons_of_ne_nil run.nonempty
    rintro ⟨⟩
    have digit := run.digital '\'' List.mem_cons_self
    cases digit
  have goes_on := Scanner.scan_append_of_endsOpen opened apart single
  have place : (Scanner.ofText before).position.after (Scanner.ofText before).rest =
      .behind before := Position.behind_after [] before
  rw [place] at goes_on
  have reached := Scanner.pull_of_digits run (.behind before)
  rw [scan, whole]
  constructor
  · intro long
    rw [Scanner.pullNumber, if_pos long] at reached
    rw [Scanner.scan_of_failed reached] at goes_on
    exact congrArg Scan.failure goes_on
  · intro short great
    rw [Scanner.pullNumber, if_neg (Nat.not_lt.mpr short), if_pos great] at reached
    rw [Scanner.scan_of_failed reached] at goes_on
    exact congrArg Scan.failure goes_on

end Stencil
