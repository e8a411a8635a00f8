import Stencil.Proofs.Printing.Expression

/-! What the source of a line is read as: parts of the same shape. The line must be followed by
nothing or by a line end, which a carriage return at the end of the line would become a part of. -/

namespace Stencil

open Grammar

/-- The source of the parts of a line. -/
def partsText (parts : List Node) : List Char := (Node.partSources parts).flatMap String.toList

theorem toList_source_line (line : Line) : line.source.toList = partsText line.parts := by
  rw [Line.source, Line.toNode, Node.source, String.toList_join, partsText]

theorem partsText_text (value : String) (position : Position) (rest : List Node) :
    partsText (.text value position :: rest) = value.toList ++ partsText rest := by
  rw [partsText, Node.partSources, List.flatMap_cons, partsText]

theorem partsText_hole {node : Node} (hole : node.isText = false) (rest : List Node) :
    partsText (node :: rest) = '\x7b' :: (node.source.toList ++ '\x7d' :: partsText rest) := by
  have sources : Node.partSources (node :: rest) =
      holeSource node.source :: Node.partSources rest := by
    cases node with
    | text => cases hole
    | _ => rfl
  rw [partsText, sources, List.flatMap_cons, ← partsText, holeSource]
  simp

/-- Behind a text, where no text can follow, a hole begins or the line ends. -/
theorem endsText_partsText {parts : List Node} {following : List Char}
    (holes : ∀ next ∈ parts.head?, next.isText = false) (ends : endsText following = true) :
    endsText (partsText parts ++ following) = true := by
  cases parts with
  | nil => exact ends
  | cons node rest =>
    rw [partsText_hole (holes node rfl)]
    rfl

theorem emits_hole {node : Node} (valid : node.IsExpression) (position : Position)
    (following : List Char) :
    ∃ (derivation : Hole) (next : Position),
      Emits ⟨.text, position, '\x7b' :: (node.source.toList ++ '\x7d' :: following)⟩
        derivation.tokens ⟨.text, next, following⟩ ∧
      derivation.chain.node.shape = node.shape := by
  have opening := Emits.single ((Spells.openHole (node.source.toList ++ '\x7d' :: following)).pulls
    position)
  obtain ⟨chain, middle, emits, shape⟩ := emits_expression node valid (position.advance '\x7b')
    ('\x7d' :: following) ⟨'\x7d', following, rfl, by decide⟩
  have closing := Emits.single ((Spells.closeHole following).pulls middle)
  exact ⟨⟨.spelled ['\x7b'] position, chain, .spelled ['\x7d'] middle⟩, middle.advance '\x7d',
    opening.append (emits.append closing), shape⟩

theorem emits_parts (parts : List Node) (valid : Node.AreParts parts) (position : Position)
    {following : List Char} (ends : endsText following = true)
    (apart : ∀ value place, parts.getLast? = some (.text value place) →
      ¬Fuses value.toList following) :
    ∃ (derivation : List Part) (next : Position),
      Emits ⟨.text, position, partsText parts ++ following⟩ (derivation.flatMap Part.tokens)
        ⟨.text, next, following⟩ ∧
      derivation.map (fun part => part.node.shape) = parts.map Node.shape := by
  induction parts generalizing position with
  | nil => exact ⟨[], position, .nil _, rfl⟩
  | cons node rest ih =>
    obtain ⟨part, single, others⟩ := valid
    have later : ∀ value place, rest.getLast? = some (.text value place) →
        ¬Fuses value.toList following := by
      intro value place last
      apply apart value place
      rw [List.getLast?_cons, last, Option.getD_some]
    cases literal : node.isText with
    | false =>
      have expression := (Node.isPart_iff_isExpression literal).mp part
      obtain ⟨hole, middle, emits, shape⟩ := emits_hole expression position
        (partsText rest ++ following)
      obtain ⟨more, next, emitsMore, shapes⟩ := ih others middle later
      refine ⟨.hole hole :: more, next, ?_, ?_⟩
      · rw [partsText_hole literal]
        simpa [Part.tokens] using emits.append emitsMore
      · rw [List.map_cons, List.map_cons, shapes, Part.node, shape]
    | true =>
      obtain ⟨value, place, rfl⟩ := Node.exists_of_isText literal
      have holes : ∀ next ∈ rest.head?, next.isText = false :=
        fun next member => single next member rfl
      have separate : ¬Fuses value.toList (partsText rest ++ following) := by
        rintro ⟨last, broken⟩
        cases rest with
        | nil => exact apart value place rfl ⟨last, broken⟩
        | cons hole more =>
          rw [partsText_hole (holes hole rfl)] at broken
          cases broken
      have spelled := Spells.text part separate (endsText_partsText holes ends)
      have emits := Emits.single (spelled.pulls position)
      obtain ⟨more, next, emitsMore, shapes⟩ := ih others (position.after value.toList) later
      refine ⟨.text (.spelled value.toList position) :: more, next, ?_, ?_⟩
      · rw [partsText_text, List.append_assoc]
        exact emits.append emitsMore
      · rw [List.map_cons, List.map_cons, shapes, Part.node]
        simp [Terminal.spelled]

theorem emits_line {line : Line} (valid : line.IsWellFormed) (position : Position)
    {following : List Char} (ends : endsText following = true)
    (apart : line.EndsInReturn → following.head? ≠ some '\n') :
    ∃ (derivation : List Part) (next : Position),
      Emits ⟨.text, position, line.source.toList ++ following⟩ (derivation.flatMap Part.tokens)
        ⟨.text, next, following⟩ ∧
      ∀ token, (Grammar.line derivation token).shape = line.shape := by
  obtain ⟨parts, start⟩ := line
  rw [toList_source_line]
  rcases valid with ⟨place, empty⟩ | ⟨nonempty, valid⟩
  · cases empty
    exact ⟨[], position, .nil _, fun _ => rfl⟩
  · have separate : ∀ value place, parts.getLast? = some (.text value place) →
        ¬Fuses value.toList following := by
      rintro value place last ⟨returned, broken⟩
      refine apart ?_ broken
      rw [Line.EndsInReturn, Line.lastText, last]
      exact returned
    obtain ⟨derivation, next, emits, shapes⟩ := emits_parts parts valid position ends separate
    refine ⟨derivation, next, emits, fun token => ?_⟩
    cases derivation with
    | nil => exact absurd (List.map_eq_nil_iff.mp shapes.symm) nonempty
    | cons part others =>
      obtain ⟨first, inner, tokens, -⟩ := part.exists_cons
      have same : ((part :: others).map Part.node).map Node.shape = parts.map Node.shape := by
        rw [← shapes, List.map_map]
        rfl
      rw [Grammar.line, List.flatMap_cons, tokens]
      exact congrArg (fun shapes => Line.mk shapes .unknown) same

end Stencil
