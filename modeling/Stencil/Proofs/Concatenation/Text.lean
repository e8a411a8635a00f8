import Stencil.Proofs.Concatenation.Parsing
import Stencil.Proofs.Concatenation.Rendering
import Stencil.Proofs.Evaluation.Moved
import Stencil.Proofs.Grammar.Acceptance
import Stencil.Proofs.Parser.Moved
import Stencil.Proofs.Token.Moved

/-! Texts put together. Behind a text that parses, another text is parsed and rendered as it is alone, at
the places behind the first text. -/

namespace Stencil

open Grammar

theorem Token.IsSpelled.lexeme_ne_empty {token : Token} (spelled : token.IsSpelled)
    (literal : token.kind = .text) : token.lexeme ≠ "" := by
  obtain ⟨mode, following, next, spells⟩ := spelled
  rw [literal] at spells
  intro empty
  apply spells.of_text.1.nonempty
  rw [empty]
  rfl

theorem textsShown_of_scan (scanner : Scanner) : TextsShown scanner.scan.tokens :=
  fun _ member literal => (Scanner.isSpelled_of_mem_scan member).lexeme_ne_empty literal

theorem TextsShown.moved {tokens : List Token} (shown : TextsShown tokens)
    (move : Position → Position) : TextsShown (tokens.map (Token.moved move)) := by
  intro token member literal
  obtain ⟨before, among, rfl⟩ := List.mem_map.mp member
  exact shown before among literal

theorem tokenize_of_scan {text : String} {tokens : List Token} (scanned : scan text = ⟨tokens, none⟩) :
    tokenize text = .ok tokens := by
  rw [tokenize, scanned]

/-- The tokens of a text that parses stand in front of the tokens of every text behind it. -/
theorem exists_derivation_append {front : String} {first : Template}
    (parsed : parse front = .ok first) :
    ∃ derivation : Derivation, derivation.template = first ∧ TextsShown derivation.front ∧
      derivation.last.token.position = .behind front.toList ∧
      ∀ text : String, ¬Fuses front.toList text.toList →
        scan (front ++ text) =
          ((scan text).moved (.past front.toList)).behind derivation.front := by
  obtain ⟨derivation, tokenized, tree⟩ := Parser.exists_derivation_of_parse parsed
  have scanned : (Scanner.ofText front.toList).scan.tokens =
      derivation.front ++ [derivation.last.token] := by
    rw [← derivation.tokens_eq_front]
    exact congrArg Scan.tokens (scan_of_tokenize tokenized)
  have place : Position.start.after front.toList = .behind front.toList :=
    Position.behind_after [] front.toList
  refine ⟨derivation, tree, ?_, ?_, ?_⟩
  · intro token member
    apply textsShown_of_scan (Scanner.ofText front.toList)
    rw [scanned]
    exact List.mem_append_left _ member
  · have nothing : ¬Fuses (Scanner.ofText front.toList).rest [] := by simp [Fuses]
    exact (Scanner.scan_append scanned derivation.last.known nothing).1.trans place
  · intro text apart
    have together := (Scanner.scan_append scanned derivation.last.known apart).2
    rw [← scan_behind, ← place]
    rw [scan, String.toList_append]
    exact together

/-- What becomes of a text behind one that parses, whether it parses or not. -/
theorem parse_append_eq {front text : String} {first : Template} (parsed : parse front = .ok first)
    (apart : ¬Fuses front.toList text.toList) :
    parse (front ++ text) = ((parse text).mapError (Failure.moved (.past front.toList))).map
      fun template => first.joined (template.moved (.past front.toList)) := by
  obtain ⟨derivation, rfl, shown, place, scanned⟩ := exists_derivation_append parsed
  have together := scanned text apart
  cases tokenized : tokenize text with
  | error failure =>
    have failed := failure_of_tokenize tokenized
    have behind : (scan (front ++ text)).failure = some (failure.moved (.past front.toList)) := by
      rw [together]
      exact congrArg (Option.map (Failure.moved (.past front.toList))) failed
    rw [Parser.parse_of_failure behind, Parser.parse_of_failure failed]
    rfl
  | ok tokens =>
    have alone := scan_of_tokenize tokenized
    obtain ⟨start, more, rfl⟩ := List.exists_cons_of_ne_nil (endsInput_of_tokenize tokenized).ne_nil
    have listed : (Scanner.ofText text.toList).scan.tokens = start :: more :=
      congrArg Scan.tokens alone
    have begins : start.position = .start := Scanner.position_of_scan listed
    have shownMore : TextsShown (start :: more) := listed ▸ textsShown_of_scan _
    have follows : derivation.last.token.position =
        (start.moved (.past front.toList)).position := by
      rw [place, Token.moved, begins, Position.start_eq_behind, Position.past_behind,
        List.append_nil]
    rw [alone] at together
    calc parse (front ++ text)
        = Eager.parse (seamed Token.fuse derivation.front
            ((start :: more).map (Token.moved (.past front.toList)))) :=
          Parser.parse_of_tokenize (tokenize_of_scan together)
      _ = (Eager.parse ((start :: more).map (Token.moved (.past front.toList)))).map
            derivation.template.joined :=
          Eager.parse_seamed derivation follows shown (shownMore.moved _)
      _ = (((Eager.parse (start :: more)).mapError (Failure.moved (.past front.toList))).map
            (Template.moved (.past front.toList))).map derivation.template.joined := by
          rw [Eager.parse_moved]
      _ = ((parse text).mapError (Failure.moved (.past front.toList))).map fun template =>
            derivation.template.joined (template.moved (.past front.toList)) := by
          rw [Parser.parse_of_tokenize tokenized]
          cases Eager.parse (start :: more) <;> rfl

/-- Behind a text that parses, another one that parses adds its lines, the first of them to the last line
before, and is rendered behind what is rendered of the first, whatever texts the options are. One that does
not parse is refused for the same reason. Either way it is moved behind the first text, and only a line end
must not be cut in two. -/
theorem parse_append {front text : String} {first : Template} (parsed : parse front = .ok first)
    (apart : ¬Fuses front.toList text.toList) :
    (∀ second, parse text = .ok second →
      parse (front ++ text) = .ok (first.joined (second.moved (.past front.toList))) ∧
      ∀ (functions : Registry) (nullText emptyText separator : String) (source : Source),
        let self : Evaluator := ⟨functions, ⟨some nullText, some emptyText, some separator⟩⟩
        self.render (first.joined (second.moved (.past front.toList))) source =
          (self.render first source).joined
            ((self.render second source).moved (.past front.toList))) ∧
    ∀ error, parse text = .error (.template error) →
      ∃ behind, parse (front ++ text) = .error (.template behind) ∧ behind.kind = error.kind ∧
        behind.message = error.message ∧
        behind.position = error.position.past front.toList := by
  have together := parse_append_eq parsed apart
  refine ⟨fun second alone => ⟨?_, ?_⟩, fun error alone => ?_⟩
  · rw [together, alone]
    rfl
  · intro functions nullText emptyText separator source self
    have complete : self.options.IsComplete := ⟨rfl, rfl⟩
    rw [Evaluator.render_joined source complete,
      self.render_moved source _ (Position.past_unknown front.toList)]
  · refine ⟨error.moved (.past front.toList), ?_, error.kind_moved _, error.message_moved _,
      error.position_moved _⟩
    rw [together, alone]
    rfl

def twoLines : Template :=
  ⟨[⟨[.text "a" ⟨0, 1, 1⟩], ⟨0, 1, 1⟩⟩, ⟨[.text "b" ⟨2, 2, 1⟩], ⟨2, 2, 1⟩⟩]⟩

def textAndHole : Template :=
  ⟨[⟨[.text "c" ⟨0, 1, 1⟩, .constant (.text "d") ⟨2, 1, 3⟩], ⟨0, 1, 1⟩⟩]⟩

theorem parse_append_twoLines :
    parse "a\nb" = .ok twoLines ∧ parse "c\x7b'd'\x7d" = .ok textAndHole ∧
    parse ("a\nb" ++ "c\x7b'd'\x7d") =
      .ok ⟨[⟨[.text "a" ⟨0, 1, 1⟩], ⟨0, 1, 1⟩⟩,
        ⟨[.text "bc" ⟨2, 2, 1⟩, .constant (.text "d") ⟨5, 2, 4⟩], ⟨2, 2, 1⟩⟩]⟩ ∧
    ∃ behind, parse ("a\nb" ++ "c\x7b") = .error (.template behind) ∧ behind.kind = "lexical" ∧
      behind.position = ⟨5, 2, 4⟩ := by
  have parsed : parse "a\nb" = .ok twoLines := by cbv
  have alone : parse "c\x7b'd'\x7d" = .ok textAndHole := by cbv
  have unclosed : parse "c\x7b" = .error (.template (.lexical .unterminatedHole ⟨2, 1, 3⟩)) := by cbv
  have together := ((parse_append parsed (by simp [Fuses])).1 textAndHole alone).1
  obtain ⟨behind, failed, kind, -, position⟩ :=
    (parse_append parsed (by simp [Fuses])).2 _ unclosed
  have shifted : Position.past "a\nb".toList ⟨2, 1, 3⟩ = ⟨5, 2, 4⟩ := by decide
  exact ⟨parsed, alone, together, behind, failed, kind, position.trans shifted⟩

end Stencil
