import Mathlib
import Stencil.Proofs.Grammar.Names
import Stencil.Proofs.Grammar.Recognition
import Stencil.Proofs.Grammar.Unambiguity
import Stencil.Proofs.Parser.Laziness

/-! Which texts are parsed, and to which trees: those whose tokens have a derivation, to the tree
of the derivation. -/

namespace Stencil

open Grammar

theorem Eager.parse_of_derivation (derivation : Derivation) :
    Eager.parse derivation.tokens = .ok derivation.template := by
  have read := Eager.template_complete derivation [] (Nat.lt_succ_self _)
  rw [List.append_nil] at read
  rw [Eager.parse, read]
  rfl

theorem Eager.exists_derivation {tokens : List Token} {template : Template}
    (parsed : Eager.parse tokens = .ok template) :
    ∃ (derivation : Derivation) (more : List Token),
      tokens = derivation.tokens ++ more ∧ derivation.template = template := by
  unfold Eager.parse at parsed
  cases outcome : Eager.template (tokens.length + 1) tokens with
  | read value rest =>
    rw [outcome] at parsed
    cases parsed
    exact Eager.template_sound outcome
  | refused found expected =>
    rw [outcome] at parsed
    cases parsed
  | starved =>
    rw [outcome] at parsed
    cases parsed

namespace Parser

variable {text : String} {tokens : List Token} {template : Template}

theorem parse_of_derivation {derivation : Derivation}
    (tokenized : tokenize text = .ok derivation.tokens) :
    parse text = .ok derivation.template :=
  (parse_of_tokenize tokenized).trans (Eager.parse_of_derivation derivation)

/-- All tokens of a text are derived, since nothing stands behind the end of the input. -/
theorem exists_derivation (tokenized : tokenize text = .ok tokens)
    (parsed : parse text = .ok template) :
    ∃ derivation : Derivation, derivation.tokens = tokens ∧ derivation.template = template := by
  rw [parse_of_tokenize tokenized] at parsed
  obtain ⟨derivation, more, rfl, tree⟩ := Eager.exists_derivation parsed
  have scanned := congrArg Scan.tokens (scan_of_tokenize tokenized)
  rw [Derivation.tokens, List.append_assoc, List.append_assoc, ← List.append_assoc] at scanned
  obtain ⟨rfl, -⟩ := Scanner.complete_of_endOfInput scanned derivation.last.known
  exact ⟨derivation, (List.append_nil _).symm, tree⟩

theorem exists_derivation_of_parse (parsed : parse text = .ok template) :
    ∃ derivation : Derivation, tokenize text = .ok derivation.tokens ∧
      derivation.template = template := by
  cases tokenized : tokenize text with
  | error failure =>
    rw [parse_of_failure (failure_of_tokenize tokenized)] at parsed
    cases parsed
  | ok tokens =>
    obtain ⟨derivation, rfl, tree⟩ := exists_derivation tokenized parsed
    exact ⟨derivation, rfl, tree⟩

end Parser

/-- A text with complete tokens is parsed exactly if its tokens have a derivation. There is only
one, the tree is its tree, and names are called in the tree where a parenthesis is next to them. -/
theorem parse_iff_derivation {text : String} {tokens : List Token}
    (tokenized : tokenize text = .ok tokens) :
    ((∃ template, parse text = .ok template) ↔
      ∃ derivation : Derivation, derivation.tokens = tokens) ∧
    ∀ derivation : Derivation, derivation.tokens = tokens →
      parse text = .ok derivation.template ∧
      (∀ other : Derivation, other.tokens = tokens → other = derivation) ∧
      derivation.template.nameUses = nameUses tokens := by
  refine ⟨⟨?_, ?_⟩, ?_⟩
  · rintro ⟨template, parsed⟩
    obtain ⟨derivation, same, -⟩ := Parser.exists_derivation tokenized parsed
    exact ⟨derivation, same⟩
  · rintro ⟨derivation, rfl⟩
    exact ⟨derivation.template, Parser.parse_of_derivation tokenized⟩
  · rintro derivation rfl
    refine ⟨Parser.parse_of_derivation tokenized, ?_, derivation.nameUses_template⟩
    intro other same
    exact Derivation.tokens_injective same

/-- The derivation of a hole in which a property is piped into a call. -/
def pipedCall : Derivation where
  first := [.hole
    { opening := ⟨⟨.openHole, "\x7b", ⟨0, 1, 1⟩⟩, rfl⟩
      chain :=
        { first := .property ⟨⟨.identifier, "x", ⟨1, 1, 2⟩⟩, rfl⟩
          others :=
            [{ mark := ⟨⟨.pipe, "|", ⟨2, 1, 3⟩⟩, rfl⟩
               target := .call ⟨⟨.identifier, "f", ⟨3, 1, 4⟩⟩, rfl⟩
                ⟨⟨.openParen, "(", ⟨4, 1, 5⟩⟩, rfl⟩
                (.some (.number ⟨⟨.number, "1", ⟨5, 1, 6⟩⟩, rfl⟩) .nil)
                ⟨⟨.closeParen, ")", ⟨6, 1, 7⟩⟩, rfl⟩ }] }
      closing := ⟨⟨.closeHole, "\x7d", ⟨7, 1, 8⟩⟩, rfl⟩ }]
  others := []
  last := ⟨⟨.endOfInput, "", ⟨8, 1, 9⟩⟩, rfl⟩

theorem parse_iff_derivation_pipedCall :
    tokenize "\x7bx|f(1)\x7d" = .ok pipedCall.tokens ∧
    parse "\x7bx|f(1)\x7d" = .ok pipedCall.template ∧
    pipedCall.template.nameUses = [⟨"x", ⟨1, 1, 2⟩, false⟩, ⟨"f", ⟨3, 1, 4⟩, true⟩] := by
  have tokenized : tokenize "\x7bx|f(1)\x7d" = .ok pipedCall.tokens := by cbv
  obtain ⟨parsed, -, uses⟩ := (parse_iff_derivation tokenized).2 pipedCall rfl
  exact ⟨tokenized, parsed, uses.trans (by decide)⟩

end Stencil
