import Stencil.Failure
import Stencil.Literal
import Stencil.Text.Blank
import Stencil.Text.Word

/-! Reading tokens one at a time. Outside holes there is literal text, broken into lines; inside
a hole there are names, numbers, strings and punctuation, with blanks between them. -/

namespace Stencil

open Text Number

inductive Mode where
  | text
  | hole
  | finished
deriving DecidableEq, Repr

/-- What is left to read, from where on and in which mode. -/
structure Scanner where
  mode : Mode
  position : Position
  rest : List Char
deriving DecidableEq, Repr

/-- The outcome of asking for the next token. -/
inductive Pull where
  | token (token : Token) (next : Scanner)
  | failed (failure : Failure)
  | exhausted

/-- The greatest number a literal can stand for. -/
def greatestNumber : Nat := 2147483647

/-- The greatest number of digits that are read at all. -/
def greatestDigitCount : Nat := 4300

/-- A hole or a line end starts here, or nothing is left. -/
def endsText : List Char → Bool
  | [] => true
  | c :: rest => c == '{' || c == '\n' || (c == '\r' && rest.head? == some '\n')

/-- The length of the literal text up to the next hole or line end. -/
def textLength : List Char → Nat
  | [] => 0
  | c :: rest => if endsText (c :: rest) then 0 else textLength rest + 1

def punctuation? : Char → Option TokenKind
  | '(' => some .openParen
  | ')' => some .closeParen
  | ',' => some .comma
  | '|' => some .pipe
  | _ => none

namespace Scanner

def ofText (text : List Char) : Scanner := ⟨.text, .start, text⟩

/-- A scanner with nothing left to give. -/
def finished : Scanner := ⟨.finished, .start, []⟩

def fail (scanner : Scanner) (cause : LexicalCause) : Pull :=
  .failed (.template (.lexical cause scanner.position))

/-- Takes characters as a token and goes on in the given mode. -/
def take (scanner : Scanner) (kind : TokenKind) (count : Nat) (mode : Mode) : Pull :=
  let lexeme := scanner.rest.take count
  .token ⟨kind, String.ofList lexeme, scanner.position⟩
    ⟨mode, scanner.position.after lexeme, scanner.rest.drop count⟩

def pullText (scanner : Scanner) : Pull :=
  match scanner.rest with
  | [] => scanner.take .endOfInput 0 .finished
  | c :: rest =>
    if c = '{' then scanner.take .openHole 1 .hole
    else if c = '\n' then scanner.take .lineBreak 1 .text
    else if c = '\r' && rest.head? = some '\n' then scanner.take .lineBreak 2 .text
    else
      match textLength (c :: rest) with
      | 0 => scanner.fail (.strayInText c)
      | count + 1 => scanner.take .text (count + 1) .text

/-- A number is refused when it has too many digits or is too great. -/
def pullNumber (scanner : Scanner) (digits : List Char) : Pull :=
  if greatestDigitCount < digits.length then .failed (.numberTooLong digits.length)
  else if greatestNumber < ofDigits digits then
    scanner.fail (.numberOutOfRange (String.ofList digits))
  else scanner.take .number digits.length .hole

def skipBlanks (scanner : Scanner) : Scanner :=
  { scanner with
    position := scanner.position.after (scanner.rest.takeWhile isInlineBlank)
    rest := scanner.rest.dropWhile isInlineBlank }

/-- Reads inside a hole, where no blank comes first. -/
def pullHole (scanner : Scanner) : Pull :=
  match scanner.rest with
  | [] => scanner.fail .unterminatedHole
  | c :: rest =>
    if c = '}' then scanner.take .closeHole 1 .text
    else
      match punctuation? c with
      | some kind => scanner.take kind 1 .hole
      | none =>
        if c = '\r' || c = '\n' then scanner.fail .lineBreakInHole
        else if c = '\'' then
          match Literal.closing rest with
          | none => scanner.fail .unterminatedString
          | some count => scanner.take .string (count + 1) .hole
        else if isDigit c then scanner.pullNumber ((c :: rest).takeWhile isDigit)
        else if isWordStart c then
          scanner.take .identifier ((c :: rest).takeWhile isWord).length .hole
        else scanner.fail (.strayInHole c)

/-- The next token. The end of the input is a token too, given once. -/
def pull (scanner : Scanner) : Pull :=
  match scanner.mode with
  | .text => scanner.pullText
  | .hole => scanner.skipBlanks.pullHole
  | .finished => .exhausted

/-- The tokens still to come are at most as many. -/
def size (scanner : Scanner) : Nat :=
  scanner.rest.length + if scanner.mode = .finished then 0 else 1

theorem take_size {scanner : Scanner} {kind : TokenKind} {count : Nat} {mode : Mode}
    {token : Token} {next : Scanner} (unfinished : scanner.mode ≠ .finished)
    (progress : mode = .finished ∨ 0 < count ∧ scanner.rest ≠ [])
    (taken : scanner.take kind count mode = .token token next) : next.size < scanner.size := by
  simp only [take, Pull.token.injEq] at taken
  obtain ⟨-, rfl⟩ := taken
  simp only [size, unfinished, if_false, List.length_drop]
  rcases progress with finished | ⟨positive, nonempty⟩
  · simp only [finished, if_true]
    omega
  · have some_left : 0 < scanner.rest.length := List.length_pos_iff.mpr nonempty
    split <;> omega

theorem fail_ne_token {scanner next : Scanner} {cause : LexicalCause} {token : Token} :
    scanner.fail cause ≠ .token token next := by
  simp [fail]

theorem pullText_size {scanner next : Scanner} {token : Token} (mode : scanner.mode = .text)
    (pulled : scanner.pullText = .token token next) : next.size < scanner.size := by
  have unfinished : scanner.mode ≠ .finished := by simp [mode]
  unfold pullText at pulled
  split at pulled
  · exact take_size unfinished (.inl rfl) pulled
  · rename_i c rest left
    have nonempty : scanner.rest ≠ [] := by simp [left]
    split at pulled
    · exact take_size unfinished (.inr ⟨by omega, nonempty⟩) pulled
    · split at pulled
      · exact take_size unfinished (.inr ⟨by omega, nonempty⟩) pulled
      · split at pulled
        · exact take_size unfinished (.inr ⟨by omega, nonempty⟩) pulled
        · split at pulled
          · exact absurd pulled fail_ne_token
          · exact take_size unfinished (.inr ⟨by omega, nonempty⟩) pulled

theorem takeWhile_length_pos {p : Char → Bool} {c : Char} {rest : List Char} (first : p c = true) :
    0 < ((c :: rest).takeWhile p).length := by
  simp [first]

theorem pullHole_size {scanner next : Scanner} {token : Token} (mode : scanner.mode = .hole)
    (pulled : scanner.pullHole = .token token next) : next.size < scanner.size := by
  have unfinished : scanner.mode ≠ .finished := by simp [mode]
  unfold pullHole at pulled
  split at pulled
  · exact absurd pulled fail_ne_token
  · rename_i c rest left
    have nonempty : scanner.rest ≠ [] := by simp [left]
    split at pulled
    · exact take_size unfinished (.inr ⟨by omega, nonempty⟩) pulled
    · split at pulled
      · exact take_size unfinished (.inr ⟨by omega, nonempty⟩) pulled
      · split at pulled
        · exact absurd pulled fail_ne_token
        · split at pulled
          · split at pulled
            · exact absurd pulled fail_ne_token
            · exact take_size unfinished (.inr ⟨by omega, nonempty⟩) pulled
          · split at pulled
            · rename_i digit
              unfold pullNumber at pulled
              split at pulled
              · cases pulled
              · split at pulled
                · exact absurd pulled fail_ne_token
                · exact take_size unfinished (.inr ⟨takeWhile_length_pos digit, nonempty⟩) pulled
            · split at pulled
              · rename_i start
                exact take_size unfinished
                  (.inr ⟨takeWhile_length_pos (isWord_of_isWordStart start), nonempty⟩) pulled
              · exact absurd pulled fail_ne_token

theorem skipBlanks_size (scanner : Scanner) : scanner.skipBlanks.size ≤ scanner.size := by
  have shorter : (scanner.rest.dropWhile isInlineBlank).length ≤ scanner.rest.length :=
    (List.dropWhile_suffix isInlineBlank).length_le
  exact Nat.add_le_add_right shorter _

/-- Every token brings the scanner nearer to its end. -/
theorem pull_size {scanner next : Scanner} {token : Token}
    (pulled : scanner.pull = .token token next) : next.size < scanner.size := by
  unfold pull at pulled
  split at pulled
  · rename_i mode
    exact pullText_size mode pulled
  · rename_i mode
    exact Nat.lt_of_lt_of_le (pullHole_size (by simpa [skipBlanks] using mode) pulled)
      (skipBlanks_size scanner)
  · cases pulled

end Scanner

/-- All tokens up to the end, or up to a failure. -/
structure Scan where
  tokens : List Token
  failure : Option Failure

def Scanner.scan (scanner : Scanner) : Scan :=
  match _pulled : scanner.pull with
  | .token token next =>
    let rest := next.scan
    ⟨token :: rest.tokens, rest.failure⟩
  | .failed failure => ⟨[], some failure⟩
  | .exhausted => ⟨[], none⟩
termination_by scanner.size
decreasing_by exact pull_size _pulled

def scan (text : String) : Scan := (Scanner.ofText text.toList).scan

/-- The tokens of a whole text. -/
def tokenize (text : String) : Except Failure (List Token) :=
  match (scan text).failure with
  | none => .ok (scan text).tokens
  | some failure => .error failure

end Stencil
