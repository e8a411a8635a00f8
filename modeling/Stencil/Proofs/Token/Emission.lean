import Stencil.Proofs.Token.Scanning

/-! Tokens that a scanner gives one after the other on its way to another scanner. -/

namespace Stencil

open Text

/-- A scanner that gives some tokens, and the scanner behind them. -/
inductive Emits : Scanner → List Token → Scanner → Prop where
  | nil (scanner : Scanner) : Emits scanner [] scanner
  | cons {scanner middle next : Scanner} {token : Token} {tokens : List Token}
      (pulls : Pulls scanner token middle) (emits : Emits middle tokens next) :
      Emits scanner (token :: tokens) next

theorem Spells.pulls {mode next : Mode} {kind : TokenKind} {lexeme following : List Char}
    (spelled : Spells mode kind lexeme following next) (position : Position) :
    Pulls ⟨mode, position, lexeme ++ following⟩ ⟨kind, String.ofList lexeme, position⟩
      ⟨next, position.after lexeme, following⟩ :=
  Pulls.intro position (by simp) (fun blank => absurd rfl blank) spelled

theorem Pulls.behind_blank {position : Position} {text : List Char} {token : Token}
    {next : Scanner} (pulls : Pulls ⟨.hole, position.advance ' ', text⟩ token next) :
    Pulls ⟨.hole, position, ' ' :: text⟩ token next := by
  cases pulls with
  | @intro _ _ _ _ _ blanks _ gap _ spelled =>
    have wider : ∀ c ∈ ' ' :: blanks, isInlineBlank c = true :=
      List.forall_mem_cons.mpr ⟨by decide, gap⟩
    exact Pulls.intro position wider (fun _ => rfl) spelled

namespace Emits

variable {scanner middle next : Scanner} {token : Token} {tokens others : List Token}

theorem single (pulls : Pulls scanner token next) : Emits scanner [token] next :=
  .cons pulls (.nil next)

theorem append (first : Emits scanner tokens middle) (second : Emits middle others next) :
    Emits scanner (tokens ++ others) next := by
  induction first with
  | nil => exact second
  | cons pulls _ ih => exact .cons pulls (ih second)

/-- A blank before the first token is skipped. -/
theorem behind_blank {position : Position} {text : List Char}
    (emits : Emits ⟨.hole, position.advance ' ', text⟩ (token :: tokens) next) :
    Emits ⟨.hole, position, ' ' :: text⟩ (token :: tokens) next := by
  cases emits with
  | cons pulls emits => exact .cons pulls.behind_blank emits

theorem scan_eq (emits : Emits scanner tokens next) :
    scanner.scan = ⟨tokens ++ next.scan.tokens, next.scan.failure⟩ := by
  induction emits with
  | nil => rfl
  | cons pulls _ ih => rw [Scanner.scan_of_token (Scanner.pull_of_pulls pulls), ih]; rfl

theorem tokenize_eq {text : String} (emits : Emits (.ofText text.toList) tokens next)
    (finished : next.mode = .finished) : tokenize text = .ok tokens := by
  have scanned := emits.scan_eq
  rw [Scanner.scan_of_finished finished, List.append_nil] at scanned
  rw [tokenize, scan, scanned]

end Emits

end Stencil
