import Stencil.Proofs.Failure.Moved
import Stencil.Proofs.Position.Behind
import Stencil.Proofs.Token.Scanning

/-! Scanning behind another text. What a scanner gives depends on its place only in the places of tokens
and failures, and these come to stand behind the other text. -/

namespace Stencil

open Text

namespace Position

variable {position : Position}

theorem isKnown_after (known : position.isKnown = true) (text : List Char) :
    (position.after text).isKnown = true := by
  induction text generalizing position with
  | nil => exact known
  | cons c rest ih => exact ih (isKnown_advance known c)

theorem past_after (known : position.isKnown = true) (front text : List Char) :
    (position.after text).past front = (position.past front).after text := by
  induction text generalizing position with
  | nil => rfl
  | cons c rest ih =>
    rw [after_cons, ih (isKnown_advance known c), past_advance known, after_cons]

end Position

def Scanner.moved (move : Position → Position) (scanner : Scanner) : Scanner :=
  { scanner with position := move scanner.position }

section

variable (move : Position → Position) (scanner : Scanner)

@[simp] theorem Scanner.mode_moved : (scanner.moved move).mode = scanner.mode := rfl

@[simp] theorem Scanner.rest_moved : (scanner.moved move).rest = scanner.rest := rfl

end

def Pull.moved (move : Position → Position) : Pull → Pull
  | token found next => .token (found.moved move) (next.moved move)
  | failed failure => .failed (failure.moved move)
  | exhausted => .exhausted

def Scan.moved (move : Position → Position) (scan : Scan) : Scan :=
  ⟨scan.tokens.map (Token.moved move), scan.failure.map (Failure.moved move)⟩

namespace Scanner

variable {scanner : Scanner} (known : scanner.position.isKnown = true) (front : List Char)

include known

theorem take_past (kind : TokenKind) (count : Nat) (mode : Mode) :
    (scanner.moved (.past front)).take kind count mode =
      (scanner.take kind count mode).moved (.past front) := by
  have place := Position.past_after known front (scanner.rest.take count)
  simp only [take, moved, Pull.moved, Token.moved, place]

theorem pullText_past :
    (scanner.moved (.past front)).pullText = scanner.pullText.moved (.past front) := by
  have taken := take_past known front
  unfold pullText
  rw [rest_moved]
  cases scanner.rest with
  | nil => exact taken .endOfInput 0 .finished
  | cons c rest =>
    simp only [taken, apply_ite (Pull.moved (.past front))]
    cases textLength (c :: rest) <;> rfl

theorem pullNumber_past (digits : List Char) :
    (scanner.moved (.past front)).pullNumber digits =
      (scanner.pullNumber digits).moved (.past front) := by
  unfold pullNumber
  split
  · rfl
  · split
    · rfl
    · exact take_past known front _ _ _

theorem pullHole_past :
    (scanner.moved (.past front)).pullHole = scanner.pullHole.moved (.past front) := by
  have taken := take_past known front
  unfold pullHole
  rw [rest_moved]
  cases scanner.rest with
  | nil => rfl
  | cons c rest =>
    simp only [taken, pullNumber_past known front, apply_ite (Pull.moved (.past front))]
    cases punctuation? c with
    | some kind => rfl
    | none =>
      simp only [apply_ite (Pull.moved (.past front))]
      cases Literal.closing rest <;> rfl

theorem pull_past : (scanner.moved (.past front)).pull = scanner.pull.moved (.past front) := by
  unfold pull
  rw [mode_moved]
  split
  · exact pullText_past known front
  · have place := Position.past_after known front (scanner.rest.takeWhile isInlineBlank)
    have skipped : (scanner.moved (.past front)).skipBlanks =
        scanner.skipBlanks.moved (.past front) := by
      simp only [skipBlanks, moved, place]
    rw [skipped]
    exact pullHole_past (Position.isKnown_after known _) front
  · rfl

theorem isKnown_of_pull {token : Token} {next : Scanner} (pulled : scanner.pull = .token token next) :
    next.position.isKnown = true := by
  cases pulls_of_pull pulled with
  | intro position => exact Position.isKnown_after (Position.isKnown_after known _) _

theorem scan_past : (scanner.moved (.past front)).scan = scanner.scan.moved (.past front) := by
  have pulledPast := pull_past known front
  induction scanner using scan.induct with
  | case1 scanner token next pulled ih =>
    rw [pulled] at pulledPast
    have nextKnown := isKnown_of_pull known pulled
    have others := ih nextKnown (pull_past nextKnown front)
    rw [scan_of_token pulledPast, scan_of_token pulled, others]
    rfl
  | case2 scanner failure pulled =>
    rw [pulled] at pulledPast
    rw [scan_of_failed pulledPast, scan_of_failed pulled]
    rfl
  | case3 scanner pulled =>
    rw [pulled] at pulledPast
    rw [scan_of_exhausted pulledPast, scan_of_exhausted pulled]
    rfl

end Scanner

/-- A text that is scanned from the place behind another one. -/
theorem scan_behind (front : List Char) (text : String) :
    (Scanner.scan ⟨.text, .behind front, text.toList⟩) = (scan text).moved (.past front) := by
  have place : Position.past front .start = .behind front := by
    rw [Position.start_eq_behind, Position.past_behind, List.append_nil]
  have known : (Scanner.ofText text.toList).position.isKnown = true := rfl
  rw [← place]
  exact Scanner.scan_past known front

end Stencil
