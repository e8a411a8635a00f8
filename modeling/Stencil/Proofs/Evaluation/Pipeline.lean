import Stencil.Proofs.Concatenation.Rendering
import Stencil.Proofs.Function.Textual
import Stencil.Token.Scan

/-! Pipelines of standard functions. Over a source of texts and sequences of texts, a pipeline whose
functions get further arguments as they are declared has such a value again, and lines of text, pipelines
and numbers are rendered without failure. -/

namespace Stencil

open Text

def Source.IsTextual (source : Source) : Prop := ∀ entry ∈ source.entries, entry.2.IsTextual

/-- The node writes the value. -/
def Node.IsLiteral (value : Value) (node : Node) : Prop :=
  ∃ position, node = .constant value position

/-- The name is a standard function's, and behind the operand it takes the literals. -/
def Registry.Takes (name : String) (literals : List Node) : Prop :=
  ∃ function ∈ builtins, fold name = fold function.name ∧
    ∃ values, List.Forall₂ Node.IsLiteral values literals ∧ function.Suits values

/-- A text or a known name, or a standard function's work on such an operand. -/
inductive Node.IsPipeline (source : Source) : Node → Prop where
  | literal (value : String) (position : Position) : IsPipeline source (.constant (.text value) position)
  | property (name : String) (position : Position) (known : source.contains name = true) :
      IsPipeline source (.property name position)
  | call {name : String} {operand : Node} {literals : List Node} (position : Position)
      (inner : IsPipeline source operand) (takes : Registry.Takes name literals) :
      IsPipeline source (.call name (operand :: literals) position)
  | pipeIntoCall {name : String} {operand : Node} {literals : List Node} (place position : Position)
      (inner : IsPipeline source operand) (takes : Registry.Takes name literals) :
      IsPipeline source (.pipe operand (.call name literals place) position)
  | pipeIntoName {name : String} {operand : Node} (place position : Position)
      (inner : IsPipeline source operand) (takes : Registry.Takes name []) :
      IsPipeline source (.pipe operand (.property name place) position)

/-- A part of a line that can be shown: text, or a hole with a number literal or a pipeline. -/
inductive Node.IsShowable (source : Source) : Node → Prop where
  | text (value : String) (position : Position) : IsShowable source (.text value position)
  | number (count : Nat) (position : Position) (small : count ≤ greatestNumber) :
      IsShowable source (.constant (.integer count) position)
  | pipeline {node : Node} (pipeline : node.IsPipeline source) : IsShowable source node

namespace Source.IsTextual

variable {source : Source}

theorem empty : Source.IsTextual .empty := fun _ member => absurd member List.not_mem_nil

theorem put (textual : source.IsTextual) (name : String) {value : Value} (kept : value.IsTextual) :
    Source.IsTextual (NameTable.put source name value) := by
  intro entry member
  rcases NameTable.of_mem_putIn member with rfl | member
  · exact kept
  · exact textual entry member

theorem exists_find? (textual : source.IsTextual) {name : String}
    (known : source.contains name = true) :
    ∃ value, source.find? name = some value ∧ value.IsTextual := by
  obtain ⟨value, found⟩ := Option.isSome_iff_exists.mp known
  obtain ⟨entry, member, -, rfl⟩ := source.exists_of_find? found
  exact ⟨entry.2, found, textual entry member⟩

end Source.IsTextual

/-! ### Values of pipelines -/

namespace Evaluator

variable {self : Evaluator} {source : Source}

theorem evaluateAll_of_isLiteral {values : List Value} {literals : List Node}
    (written : List.Forall₂ Node.IsLiteral values literals) :
    self.evaluateAll source literals = .ok values := by
  induction written with
  | nil => rfl
  | cons first _ ih =>
    obtain ⟨position, rfl⟩ := first
    rw [evaluateAll, ih]
    rfl

variable (standard : self.functions = .builtin)

include standard

/-- A standard function is found and makes a text or a sequence of texts. -/
theorem exists_call {name : String} {literals : List Node} (takes : Registry.Takes name literals)
    {operand : Value} (textual : operand.IsTextual) (position : Position) :
    ∃ values result, List.Forall₂ Node.IsLiteral values literals ∧
      call self.functions name (operand :: values) position = .ok result ∧ result.IsTextual := by
  obtain ⟨function, member, same, values, written, suits⟩ := takes
  obtain ⟨result, invoked, kept⟩ := (isClosed_of_mem_builtins member).invoke suits textual
  refine ⟨values, result, written, ?_, kept⟩
  rw [standard]
  exact call_of_find? (Registry.find?_builtin member same) invoked position

theorem exists_evaluate (textual : source.IsTextual) {node : Node}
    (pipeline : node.IsPipeline source) :
    ∃ value, self.evaluate source node = .ok value ∧ value.IsTextual := by
  induction pipeline with
  | literal value position => exact ⟨.text value, rfl, Value.isTextual_text value⟩
  | property name position known =>
    obtain ⟨value, found, kept⟩ := textual.exists_find? known
    refine ⟨value, ?_, kept⟩
    rw [evaluate, property, found]
  | call position _ takes ih =>
    obtain ⟨operand, evaluated, textual⟩ := ih
    obtain ⟨values, result, written, called, kept⟩ := exists_call standard takes textual position
    refine ⟨result, ?_, kept⟩
    rw [evaluate, evaluateAll, evaluated, evaluateAll_of_isLiteral written]
    exact called
  | pipeIntoCall place position _ takes ih =>
    obtain ⟨operand, evaluated, textual⟩ := ih
    obtain ⟨values, result, written, called, kept⟩ := exists_call standard takes textual place
    refine ⟨result, ?_, kept⟩
    rw [evaluate, evaluated, evaluateAll_of_isLiteral written]
    exact called
  | pipeIntoName place position _ takes ih =>
    obtain ⟨operand, evaluated, textual⟩ := ih
    obtain ⟨values, result, written, called, kept⟩ := exists_call standard takes textual place
    obtain rfl := List.forall₂_nil_right_iff.mp written
    refine ⟨result, ?_, kept⟩
    rw [evaluate, evaluated]
    exact called

end Evaluator

/-! ### Showing them -/

theorem Value.areWritable_of_textsOf {items : List Value} {contents : List String}
    (found : textsOf items = some contents) : areWritable items = true := by
  induction items generalizing contents with
  | nil => rfl
  | cons item rest ih =>
    cases item with
    | text content =>
      obtain ⟨others, more, -⟩ := Option.map_eq_some_iff.mp found
      exact ih more
    | _ => cases found

theorem Value.shown_natCast {count : Nat} (small : count ≤ greatestNumber) :
    (integer count).shown = .ok (integer count).display := by
  have short : greatestNumber < 10 ^ 10 := by decide
  have compared : (integer count).isWritable =
      decide ((count : Int).natAbs < 10 ^ longestInteger) := rfl
  have writable : (integer count).isWritable = true := by
    rw [compared, decide_eq_true_eq]
    apply Nat.lt_of_le_of_lt small
    exact Nat.lt_of_lt_of_le short (Nat.pow_le_pow_right (by decide) (by decide))
  rw [shown, if_pos writable]

namespace Options

variable {options : Options} (separated : options.separator.isSome = true)

include separated

theorem exists_showItems {items : List Value} {contents : List String}
    (found : Value.textsOf items = some contents) : ∃ text, options.showItems items = .ok text := by
  obtain ⟨separator, given⟩ := Option.isSome_iff_exists.mp separated
  simp only [showItems, given, Value.areWritable_of_textsOf found, if_true]
  split <;> exact ⟨_, rfl⟩

theorem exists_shown {value : Value} (textual : value.IsTextual) :
    ∃ text, options.shown value = .ok text := by
  rcases textual.cases with ⟨content, rfl⟩ | ⟨contents, found⟩
  · exact ⟨_, rfl⟩
  · cases value with
    | list items => exact exists_showItems separated found
    | tuple items => exact exists_showItems separated found
    | _ => cases found

end Options

namespace Evaluator

variable {self : Evaluator} {source : Source} (standard : self.functions = .builtin)
  (textual : source.IsTextual) (separated : self.options.separator.isSome = true)

include standard textual separated

theorem exists_renderPart {part : Node} (showable : part.IsShowable source) :
    ∃ text, self.renderPart source part = .ok text := by
  cases showable with
  | text value position => exact ⟨some value, rfl⟩
  | number count position small =>
    refine ⟨some (Value.integer count).display, ?_⟩
    simp only [renderPart, evaluate, bind, Except.bind, Options.shown, Value.shown_natCast small]
    rfl
  | pipeline pipeline =>
    have hole : ∀ value place, part ≠ .text value place := by
      rintro value place rfl
      cases pipeline
    obtain ⟨value, evaluated, kept⟩ := exists_evaluate standard textual pipeline
    rw [renderPart_hole _ _ hole, evaluated]
    exact Options.exists_shown separated kept

theorem exists_renderParts {parts : List Node}
    (showable : ∀ part ∈ parts, part.IsShowable source) :
    ∃ texts, self.renderParts source parts = .ok texts := by
  induction parts with
  | nil => exact ⟨[], rfl⟩
  | cons part rest ih =>
    obtain ⟨first, others⟩ := List.forall_mem_cons.mp showable
    obtain ⟨text, rendered⟩ := exists_renderPart standard textual separated first
    obtain ⟨texts, more⟩ := ih others
    refine ⟨text :: texts, ?_⟩
    rw [renderParts_cons, rendered, more]
    rfl

theorem exists_renderLine (complete : self.options.IsComplete) {line : Line}
    (showable : ∀ part ∈ line.parts, part.IsShowable source) :
    ∃ text, self.renderLine source line = .ok text := by
  obtain ⟨texts, rendered⟩ := exists_renderParts standard textual separated showable
  refine ⟨joinedText texts, ?_⟩
  rw [renderLine, rendered]
  exact showTexts_of_isSome (isSome_of_renderParts _ source complete rendered) 0

theorem exists_renderLines (complete : self.options.IsComplete) {lines : List Line}
    (showable : ∀ line ∈ lines, ∀ part ∈ line.parts, part.IsShowable source) :
    ∃ texts, self.renderLines source lines = ⟨texts, none⟩ ∧
      texts.length = lines.length := by
  induction lines with
  | nil => exact ⟨[], rfl, rfl⟩
  | cons line rest ih =>
    obtain ⟨first, others⟩ := List.forall_mem_cons.mp showable
    obtain ⟨text, rendered⟩ := exists_renderLine standard textual separated complete first
    obtain ⟨texts, more, same⟩ := ih others
    refine ⟨text :: texts, ?_, congrArg (· + 1) same⟩
    rw [renderLines_of_ok rendered, more]

omit standard textual separated

/-- Pipelines do not go wrong, and templates made of them are rendered to the end. -/
theorem render_pipelines (self : Evaluator) (source : Source) (standard : self.functions = .builtin)
    (textual : source.IsTextual) :
    (∀ node : Node, node.IsPipeline source →
      ∃ value, self.evaluate source node = .ok value ∧ value.IsTextual) ∧
    (self.options.IsComplete → self.options.separator.isSome = true → ∀ template : Template,
      (∀ line ∈ template.lines, ∀ part ∈ line.parts, part.IsShowable source) →
      ∃ texts, self.render template source = ⟨texts, none⟩ ∧
        texts.length = template.lines.length) := by
  constructor
  · intro node pipeline
    exact exists_evaluate standard textual pipeline
  · intro complete separated template showable
    exact exists_renderLines standard textual separated complete showable

end Evaluator

/-! ### An intricate template -/

/-- A tuple of texts, and a text. -/
def tagged : Source :=
  (NameTable.empty.put "Tags" (.tuple [.text "a", .text "b", .text "c"])).put "title" (.text "Go, now")

/-- Pipes into calls and names, a call in a call, names in other cases and a number. -/
def labels : Template :=
  ⟨[⟨[.text "tags: " .start,
      .pipe (.pipe (.pipe (.property "TAGS" .start) (.call "Take" [.constant (.integer 2) .start] .start)
          .start)
        (.call "join" [.constant (.text "/") .start] .start) .start) (.property "uPPer" .start) .start,
      .constant (.integer 7) .start], .start⟩,
    ⟨[.call "REPLACE" [.call "split" [.property "Title" .start, .constant (.text ",") .start] .start,
        .constant (.text "o") .start, .constant (.text "") .start] .start], .start⟩]⟩

theorem isTextual_tagged : tagged.IsTextual :=
  (Source.IsTextual.empty.put "Tags" (.inr rfl)).put "title" (.inl rfl)

theorem isShowable_labels : ∀ line ∈ labels.lines, ∀ part ∈ line.parts, part.IsShowable tagged := by
  have other : ∀ {name : String} {values : List Value}, name ≠ "replace" → name = "replace" →
      ∀ others, values ≠ .text "" :: others := fun differs same => absurd same differs
  have take : Registry.Takes "Take" [.constant (.integer 2) .start] :=
    ⟨Builtin.take, by simp [builtins], by decide +kernel, [.integer 2], .cons ⟨_, rfl⟩ .nil,
      .cons (.integer 2) .nil, other (by decide)⟩
  have join : Registry.Takes "join" [.constant (.text "/") .start] :=
    ⟨Builtin.join, by simp [builtins], by decide +kernel, [.text "/"], .cons ⟨_, rfl⟩ .nil,
      .cons (.text "/") .nil, other (by decide)⟩
  have upper : Registry.Takes "uPPer" [] :=
    ⟨Builtin.upper, by simp [builtins], by decide +kernel, [], .nil, .nil, other (by decide)⟩
  have split : Registry.Takes "split" [.constant (.text ",") .start] :=
    ⟨Builtin.split, by simp [builtins], by decide +kernel, [.text ","], .cons ⟨_, rfl⟩ .nil,
      .cons (.text ",") .nil, other (by decide)⟩
  have replace : Registry.Takes "REPLACE" [.constant (.text "o") .start, .constant (.text "") .start] :=
    ⟨Builtin.replace, by simp [builtins], by decide +kernel, [.text "o", .text ""],
      .cons ⟨_, rfl⟩ (.cons ⟨_, rfl⟩ .nil), .cons (.text "o") (.cons (.text "") .nil), by simp⟩
  have tags : Node.IsPipeline tagged (.property "TAGS" .start) :=
    .property "TAGS" .start (by decide +kernel)
  have title : Node.IsPipeline tagged (.property "Title" .start) :=
    .property "Title" .start (by decide +kernel)
  intro line member
  simp only [labels, List.mem_cons, List.not_mem_nil, or_false] at member
  rcases member with rfl | rfl <;> intro part member <;>
    simp only [List.mem_cons, List.not_mem_nil, or_false] at member
  · rcases member with rfl | rfl | rfl
    · exact .text _ _
    · exact .pipeline
        (.pipeIntoName _ _ (.pipeIntoCall _ _ (.pipeIntoCall _ _ tags take) join) upper)
    · exact .number 7 _ (by decide)
  · obtain rfl := member
    exact .pipeline (.call _ (.call _ title split) replace)

theorem render_pipelines_labels :
    tagged.IsTextual ∧ (∀ line ∈ labels.lines, ∀ part ∈ line.parts, part.IsShowable tagged) ∧
    ∃ texts, (Evaluator.mk .builtin {}).render labels tagged = ⟨texts, none⟩ ∧
      texts.length = labels.lines.length := by
  have always := (Evaluator.mk .builtin {}).render_pipelines tagged rfl isTextual_tagged
  exact ⟨isTextual_tagged, isShowable_labels, always.2 ⟨rfl, rfl⟩ rfl labels isShowable_labels⟩

end Stencil
