import Stencil.Node.Source
import Stencil.Proofs.Token.Emission
import Stencil.Proofs.Token.Neighbours

/-! String literals as they are printed and read. What is printed for a text is read back up to its end
and as that text, every string token is what is printed for its text, and a literal is missing its end
exactly if the quotes behind the opening one are all in pairs. -/

namespace Stencil

/-- What a scanner gives at an opening quote for what the search behind it finds: the literal up to the
closing quote, or a failure at the opening one. -/
def Pull.atQuote (position : Position) (rest : List Char) : Option Nat → Pull
  | some count =>
    .token ⟨.string, String.ofList ('\'' :: rest.take count), position⟩
      ⟨.hole, position.after ('\'' :: rest.take count), rest.drop count⟩
  | none => .failed (.template (.lexical .unterminatedString position))

theorem Node.source_text (value : String) (position : Position) :
    (Node.constant (.text value) position).source = Literal.encode value := by
  simp only [source, constantSource]

theorem Spells.lexeme_of_string {mode next : Mode} {lexeme following : List Char}
    (spelled : Spells mode .string lexeme following next) :
    ∃ value, lexeme = Literal.encoded value := by
  cases spelled with
  | string value => exact ⟨value, rfl⟩
  | punctuation mark => simpa using Scanner.mark_of_punctuation mark

theorem Token.IsSpelled.encode_decode {token : Token} (spelled : token.IsSpelled)
    (kind : token.kind = .string) : Literal.encode (Literal.decode token.lexeme) = token.lexeme := by
  obtain ⟨mode, following, next, spelled⟩ := spelled
  rw [kind] at spelled
  obtain ⟨value, same⟩ := spelled.lexeme_of_string
  apply String.toList_inj.mp
  rw [Literal.encode, Literal.decode, String.toList_ofList, String.toList_ofList, same,
    Literal.decoded_encoded]

namespace Scanner

theorem pull_encode (position : Position) (value : String) {following : List Char}
    (single : following.head? ≠ some '\'') :
    pull ⟨.hole, position, (Literal.encode value).toList ++ following⟩ =
      .token ⟨.string, Literal.encode value, position⟩
        ⟨.hole, position.after (Literal.encode value).toList, following⟩ := by
  have spelled := Spells.string value.toList single
  rw [Literal.encode, String.toList_ofList]
  exact pull_of_pulls (spelled.pulls position)

theorem pull_quote (position : Position) (rest : List Char) :
    pull ⟨.hole, position, '\'' :: rest⟩ = .atQuote position rest (Literal.closing rest) := by
  have gapless : skipBlanks ⟨.hole, position, '\'' :: rest⟩ = ⟨.hole, position, '\'' :: rest⟩ := rfl
  simp only [pull, gapless, pullHole]
  cases Literal.closing rest <;> rfl

end Scanner

/-- String literals lose nothing. What is printed for a text, in front of anything that does not begin with
a quote, is read as one token that ends where it ends and stands for the text. Every string token of a text,
printed for what it stands for, is as it was. And at every opening quote the search for the closing one ends
in one way, without any exactly if all quotes behind are in pairs, which is if all their runs are even. -/
theorem literals_read_back (position place : Position) :
    (∀ (value : String) (following : List Char), following.head? ≠ some '\'' →
      Scanner.pull ⟨.hole, position,
          (Node.constant (.text value) place).source.toList ++ following⟩ =
        .token ⟨.string, (Node.constant (.text value) place).source, position⟩
          ⟨.hole, position.after (Node.constant (.text value) place).source.toList, following⟩ ∧
      Literal.decode (Node.constant (.text value) place).source = value) ∧
    (∀ text : String, ∀ token ∈ (scan text).tokens, token.kind = .string →
      (Node.constant (.text (Literal.decode token.lexeme)) place).source = token.lexeme) ∧
    ∀ rest : List Char, ∃ found,
      (∀ other, Literal.Seeks rest other ↔ other = found) ∧
      Scanner.pull ⟨.hole, position, '\'' :: rest⟩ = .atQuote position rest found ∧
      (found = none ↔ Literal.IsPaired rest) ∧ (found = none ↔ Literal.HasEvenRuns rest) := by
  simp only [Node.source_text]
  refine ⟨fun value following single => ?_, fun text token member kind => ?_, fun rest => ?_⟩
  · exact ⟨Scanner.pull_encode position value single, Literal.decode_encode value⟩
  · exact (Scanner.isSpelled_of_mem_scan member).encode_decode kind
  · exact ⟨Literal.closing rest, fun other => Literal.seeks_iff, Scanner.pull_quote position rest,
      Literal.closing_eq_none_iff_isPaired rest, Literal.closing_eq_none_iff_hasEvenRuns rest⟩

/-- Quotes at both ends of a text with a line feed and a brace, in front of a comma and one more quote; and a
literal in a call, with a quote behind the hole. -/
theorem literals_read_back_quotesAtEnds :
    ([',', '\''].head? ≠ some '\'' ∧
      Scanner.pull ⟨.hole, .start, "'''\n\x7b'''''".toList ++ [',', '\'']⟩ =
        .token ⟨.string, "'''\n\x7b'''''", .start⟩ ⟨.hole, ⟨10, 2, 7⟩, [',', '\'']⟩ ∧
      Literal.decode "'''\n\x7b'''''" = "'\n\x7b''") ∧
    (⟨.string, "'it''s'", ⟨3, 1, 4⟩⟩ ∈ (scan "\x7bf('it''s')\x7d'").tokens ∧
      (Node.constant (.text (Literal.decode "'it''s'")) .unknown).source = "'it''s'") := by
  obtain ⟨reads, prints, -⟩ := literals_read_back .start .unknown
  have apart : [',', '\''].head? ≠ some '\'' := by decide
  have printed : (Node.constant (.text "'\n\x7b''") .unknown).source = "'''\n\x7b'''''" := by cbv
  have read := reads "'\n\x7b''" [',', '\''] apart
  have ending : Position.start.after "'''\n\x7b'''''".toList = ⟨10, 2, 7⟩ := by cbv
  rw [printed, ending] at read
  have member : ⟨.string, "'it''s'", ⟨3, 1, 4⟩⟩ ∈ (scan "\x7bf('it''s')\x7d'").tokens := by
    have tokens : (scan "\x7bf('it''s')\x7d'").tokens =
        [⟨.openHole, "\x7b", ⟨0, 1, 1⟩⟩, ⟨.identifier, "f", ⟨1, 1, 2⟩⟩, ⟨.openParen, "(", ⟨2, 1, 3⟩⟩,
          ⟨.string, "'it''s'", ⟨3, 1, 4⟩⟩, ⟨.closeParen, ")", ⟨10, 1, 11⟩⟩,
          ⟨.closeHole, "\x7d", ⟨11, 1, 12⟩⟩, ⟨.text, "'", ⟨12, 1, 13⟩⟩,
          ⟨.endOfInput, "", ⟨13, 1, 14⟩⟩] := by cbv
    rw [tokens]
    simp
  have print := prints _ _ member rfl
  exact ⟨⟨apart, read⟩, member, print⟩

end Stencil
