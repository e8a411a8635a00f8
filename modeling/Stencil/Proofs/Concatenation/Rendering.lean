import Stencil.Proofs.Concatenation.Tree
import Stencil.Proofs.Evaluation.Basic

/-! Rendering templates put together. Parts are rendered from left to right and their texts put one behind
the other, so a line that goes on with another one is rendered to both their texts. -/

namespace Stencil

def joinedTexts : List String → List String → List String :=
  seamed fun first second => some (first ++ second)

/-- What is rendered of two templates put together. The second is not rendered behind a failure of the
first; where already its first line fails, the last line of the first has no end. -/
def Rendering.joined (first second : Rendering) : Rendering :=
  match first.failure, second.lines, second.failure with
  | some _, _, _ => first
  | none, [], some failure => ⟨first.lines.dropLast, some failure⟩
  | none, lines, failure => ⟨joinedTexts first.lines lines, failure⟩

namespace Rendering

theorem joined_of_failure {first : Rendering} {failure : Failure}
    (failed : first.failure = some failure) (second : Rendering) : first.joined second = first := by
  unfold joined
  rw [failed]

theorem joined_nil_left (second : Rendering) : (⟨[], none⟩ : Rendering).joined second = second := by
  obtain ⟨lines, failure⟩ := second
  cases lines <;> cases failure <;> rfl

theorem joined_nil_right (first : Rendering) : first.joined ⟨[], none⟩ = first := by
  obtain ⟨lines, failure⟩ := first
  cases failure with
  | some failure => rfl
  | none => exact congrArg (fun lines => Rendering.mk lines none) (seamed_nil_right lines)

/-- Only the last line of the first rendering is at the seam. -/
theorem joined_cons {first : Rendering} (more : first.failure = none → first.lines ≠ [])
    (text : String) (second : Rendering) :
    (⟨text :: first.lines, first.failure⟩ : Rendering).joined second =
      ⟨text :: (first.joined second).lines, (first.joined second).failure⟩ := by
  obtain ⟨lines, failure⟩ := first
  obtain ⟨others, failing⟩ := second
  cases failure with
  | some failure => rfl
  | none =>
    have nonempty : lines ≠ [] := more rfl
    have cons : joinedTexts (text :: lines) others = text :: joinedTexts lines others :=
      seamed_cons nonempty text others
    have dropped : (text :: lines).dropLast = text :: lines.dropLast :=
      List.dropLast_cons_of_ne_nil nonempty
    cases others with
    | cons next rest => exact congrArg (fun lines => Rendering.mk lines failing) cons
    | nil =>
      cases failing with
      | none => exact congrArg (fun lines => Rendering.mk lines none) cons
      | some failing => exact congrArg (fun lines => Rendering.mk lines (some failing)) dropped

end Rendering

/-- No text that stands in a line is missing from the options. -/
structure Options.IsComplete (options : Options) : Prop where
  nullText : options.nullText.isSome
  emptyText : options.emptyText.isSome

theorem Options.IsComplete.isSome_of_shown {options : Options} (complete : options.IsComplete)
    {value : Value} {text : Option String} (shown : options.shown value = .ok text) :
    text.isSome = true := by
  have items : ∀ values, options.showItems values = .ok text → text.isSome = true := by
    intro values done
    unfold showItems at done
    split at done
    · cases done
      exact complete.emptyText
    · split at done
      · cases done
      · split at done <;> cases done
        rfl
  unfold Options.shown at shown
  split at shown
  · cases shown
    exact complete.nullText
  · cases shown
    split
    · exact complete.emptyText
    · rfl
  · exact items _ shown
  · exact items _ shown
  · unfold Value.shown at shown
    split at shown <;> cases shown
    rfl

/-- The text of a line whose texts are all there. -/
def joinedText (texts : List (Option String)) : String :=
  String.join (texts.map fun text => text.getD "")

theorem joinedText_cons (text : Option String) (rest : List (Option String)) :
    joinedText (text :: rest) = text.getD "" ++ joinedText rest := by
  rw [joinedText, List.map_cons, String.join_cons, joinedText]

theorem joinedText_append (first second : List (Option String)) :
    joinedText (first ++ second) = joinedText first ++ joinedText second := by
  rw [joinedText, List.map_append, String.join_append, joinedText, joinedText]

theorem showTexts_of_isSome {texts : List (Option String)}
    (present : ∀ text ∈ texts, text.isSome = true) (place : Nat) :
    showTexts place texts = .ok (joinedText texts) := by
  induction texts generalizing place with
  | nil => rfl
  | cons first rest ih =>
    obtain ⟨some_first, some_rest⟩ := List.forall_mem_cons.mp present
    obtain ⟨text, rfl⟩ := Option.isSome_iff_exists.mp some_first
    rw [showTexts, ih some_rest (place + 1), joinedText_cons]
    rfl

namespace Evaluator

variable (self : Evaluator) (source : Source)

theorem isSome_of_renderPart (complete : self.options.IsComplete) {node : Node}
    {text : Option String} (rendered : self.renderPart source node = .ok text) :
    text.isSome = true := by
  unfold renderPart at rendered
  split at rendered
  next =>
    cases rendered
    rfl
  next =>
    obtain ⟨value, -, shown⟩ := exists_of_bind_ok rendered
    exact complete.isSome_of_shown shown

theorem isSome_of_renderParts (complete : self.options.IsComplete) {parts : List Node}
    {texts : List (Option String)} (rendered : self.renderParts source parts = .ok texts) :
    ∀ text ∈ texts, text.isSome = true := by
  induction parts generalizing texts with
  | nil =>
    cases rendered
    simp
  | cons node rest ih =>
    rw [renderParts_cons] at rendered
    obtain ⟨text, first, rendered⟩ := exists_of_bind_ok rendered
    obtain ⟨more, others, rendered⟩ := exists_of_bind_ok rendered
    cases rendered
    exact List.forall_mem_cons.mpr ⟨self.isSome_of_renderPart source complete first, ih others⟩

/-! ### Parts in turn -/

/-- The text of some parts, where none is missing. -/
def textOf (parts : List Node) : Except Failure String :=
  (self.renderParts source parts).map joinedText

theorem renderLine_eq_textOf (complete : self.options.IsComplete) (line : Line) :
    self.renderLine source line = self.textOf source line.parts := by
  unfold renderLine textOf
  cases rendered : self.renderParts source line.parts with
  | error failure => rfl
  | ok texts => exact showTexts_of_isSome (self.isSome_of_renderParts source complete rendered) 0

theorem textOf_append (first second : List Node) :
    self.textOf source (first ++ second) = (do
      let text ← self.textOf source first
      let more ← self.textOf source second
      return text ++ more) := by
  have inTurn : self.renderParts source (first ++ second) = (do
      let texts ← self.renderParts source first
      let others ← self.renderParts source second
      return texts ++ others) := by
    induction first with
    | nil =>
      rw [List.nil_append]
      cases self.renderParts source second <;> rfl
    | cons node rest ih =>
      rw [List.cons_append, renderParts_cons, renderParts_cons, ih]
      simp only [bind_assoc, pure_bind, List.cons_append]
  unfold textOf
  rw [inTurn]
  cases self.renderParts source first with
  | error failure => rfl
  | ok texts =>
    cases self.renderParts source second with
    | error failure => rfl
    | ok others => exact congrArg Except.ok (joinedText_append texts others)

theorem textOf_cons (node : Node) (rest : List Node) :
    self.textOf source (node :: rest) = (do
      let text ← self.textOf source [node]
      let more ← self.textOf source rest
      return text ++ more) :=
  textOf_append self source [node] rest

theorem textOf_text (value : String) (position : Position) (rest : List Node) :
    self.textOf source (.text value position :: rest) =
      (self.textOf source rest).map fun more => value ++ more := by
  unfold textOf
  rw [renderParts_cons]
  cases self.renderParts source rest with
  | error failure => rfl
  | ok texts => exact congrArg Except.ok (joinedText_cons (some value) texts)

/-- One text shows what two texts in turn show. -/
theorem textOf_seamed (first second : List Node) :
    self.textOf source (seamed Node.fuse first second) = self.textOf source (first ++ second) := by
  fun_induction seamed Node.fuse first second with
  | case1 second => rfl
  | case2 last next rest whole fuses =>
    unfold Node.fuse at fuses
    split at fuses
    next value position more place =>
      cases fuses
      rw [List.singleton_append, textOf_text, textOf_text, textOf_text]
      cases self.textOf source rest with
      | error failure => rfl
      | ok text => exact congrArg Except.ok String.append_assoc
    next => cases fuses
  | case3 last next rest apart => rfl
  | case4 item others second _ ih =>
    rw [List.cons_append, textOf_cons, textOf_cons self source item (others ++ second), ih]

/-- An empty text shows nothing. -/
theorem textOf_content (line : Line) :
    self.textOf source line.content = self.textOf source line.parts := by
  unfold Line.content
  induction line.parts with
  | nil => rfl
  | cons node rest ih =>
    by_cases empty : node.isEmptyText = true
    · unfold Node.isEmptyText at empty
      split at empty
      next value position =>
        obtain rfl := eq_of_beq empty
        rw [List.filter_cons_of_neg (by simp [Node.isEmptyText]), ih, textOf_text]
        cases self.textOf source rest with
        | error failure => rfl
        | ok text => exact congrArg Except.ok String.empty_append.symm
      next => cases empty
    · rw [List.filter_cons_of_pos (by simpa using empty), textOf_cons, ih, ← textOf_cons]

theorem textOf_lineOf (position : Position) (parts : List Node) :
    self.textOf source (Parser.lineOf position parts).parts = self.textOf source parts := by
  cases parts with
  | nil => rfl
  | cons node rest => rfl

/-! ### Lines in turn -/

variable {self} (complete : self.options.IsComplete)

include complete

theorem renderLine_joined (first second : Line) :
    self.renderLine source (first.joined second) = (do
      let text ← self.renderLine source first
      let more ← self.renderLine source second
      return text ++ more) := by
  rw [renderLine_eq_textOf self source complete, renderLine_eq_textOf self source complete,
    renderLine_eq_textOf self source complete, Line.joined, textOf_lineOf, textOf_seamed,
    textOf_append, textOf_content, textOf_content]

/-- The line at the seam fails where one of its halves does. -/
theorem renderLines_singleton_joined (line : Line) (second : List Line) :
    self.renderLines source (joinedLines [line] second) =
      (self.renderLines source [line]).joined (self.renderLines source second) := by
  cases second with
  | nil => rw [joinedLines, seamed_nil_right, renderLines, Rendering.joined_nil_right]
  | cons next rest =>
    have whole := renderLine_joined source complete line next
    have fused : joinedLines [line] (next :: rest) = line.joined next :: rest :=
      seamed_of_fuses rfl rest
    rw [fused]
    cases rendered : self.renderLine source line with
    | error failure =>
      rw [rendered] at whole
      rw [renderLines_of_error whole, renderLines_of_error rendered,
        Rendering.joined_of_failure rfl]
    | ok text =>
      cases behind : self.renderLine source next with
      | error failure =>
        rw [rendered, behind] at whole
        rw [renderLines_of_error whole, renderLines_of_ok rendered, renderLines_of_error behind]
        rfl
      | ok more =>
        rw [rendered, behind] at whole
        rw [renderLines_of_ok whole, renderLines_of_ok rendered, renderLines_of_ok behind]
        rfl

theorem renderLines_joined (first second : List Line) :
    self.renderLines source (joinedLines first second) =
      (self.renderLines source first).joined (self.renderLines source second) := by
  induction first with
  | nil => rw [joinedLines, seamed_nil_left, renderLines, Rendering.joined_nil_left]
  | cons line others ih =>
    cases others with
    | nil => exact renderLines_singleton_joined source complete line second
    | cons following more =>
      have cons : joinedLines (line :: following :: more) second =
          line :: joinedLines (following :: more) second :=
        seamed_cons (List.cons_ne_nil _ _) line second
      rw [cons]
      cases rendered : self.renderLine source line with
      | error failure =>
        rw [renderLines_of_error rendered, renderLines_of_error rendered,
          Rendering.joined_of_failure rfl]
      | ok text =>
        rw [renderLines_of_ok rendered, renderLines_of_ok rendered, ih,
          Rendering.joined_cons lines_ne_nil]

/-- Templates put together are rendered to what they are rendered to put together. -/
theorem render_joined (first second : Template) :
    self.render (first.joined second) source =
      (self.render first source).joined (self.render second source) :=
  renderLines_joined source complete first.lines second.lines

end Evaluator

end Stencil
