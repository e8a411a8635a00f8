import Stencil.Proofs.Evaluation.Basic
import Stencil.Proofs.Function.Splitting
import Stencil.Proofs.Function.Textual

/-! Pipes into the functions that split, join and replace. The laws of splitting texts are said here of
the values that such pipes have. -/

namespace Stencil

open Text

/-- A pipe into a call. The first place is the call's, the second one the pipe's. -/
def Node.into (operand : Node) (name : String) (arguments : List Node)
    (places : Position × Position) : Node :=
  .pipe operand (.call name arguments places.1) places.2

namespace Function

theorem invoke_split (operand : Value) (separator : String) :
    Builtin.split.invoke [operand, .text separator] =
      Builtin.split.apply operand [.text separator] := rfl

theorem invoke_join (texts : List String) (glue : String) :
    Builtin.join.invoke [.ofTexts texts, .text glue] = .ok (.text (glue.intercalate texts)) := by
  have dispatched : Builtin.join.invoke [.ofTexts texts, .text glue] =
      Builtin.join.apply (.ofTexts texts) [.text glue] := rfl
  rw [dispatched, apply_of_texts? (Value.texts?_ofTexts texts)]
  rfl

theorem invoke_replace {old : String} (present : old ≠ "") (value new : String) :
    Builtin.replace.invoke [.text value, .text old, .text new] =
      .ok (.text (replaceText old new value)) := if_neg present

end Function

namespace Evaluator

section

variable {self : Evaluator} (standard : self.functions = .builtin) {source : Source} {operand : Node}
  {value : Value} (evaluated : self.evaluate source operand = .ok value)

include standard evaluated

/-- A pipe into a standard function has the value that the function makes. -/
theorem evaluate_into {function : Function} (member : function ∈ builtins) {arguments : List Node}
    {values : List Value} (written : self.evaluateAll source arguments = .ok values) {result : Value}
    (invoked : function.invoke (value :: values) = .ok result) (places : Position × Position) :
    self.evaluate source (operand.into function.name arguments places) = .ok result := by
  rw [Node.into, evaluate, evaluated, written, standard]
  exact call_of_find? (Registry.find?_builtin member rfl) invoked places.1

end

section

variable {self : Evaluator} {source : Source} {argument other : Node} {value next : Value}

theorem evaluateAll_singleton (written : self.evaluate source argument = .ok value) :
    self.evaluateAll source [argument] = .ok [value] := by
  rw [evaluateAll, written]
  rfl

theorem evaluateAll_pair (written : self.evaluate source argument = .ok value)
    (more : self.evaluate source other = .ok next) :
    self.evaluateAll source [argument, other] = .ok [value, next] := by
  rw [evaluateAll, written, evaluateAll_singleton more]
  rfl

end

section

variable {self : Evaluator} (standard : self.functions = .builtin) {source : Source}
  {operand separator : Node} {s : String} (written : self.evaluate source separator = .ok (.text s))

include standard written

theorem evaluate_split_text {value : String}
    (evaluated : self.evaluate source operand = .ok (.text value)) (places : Position × Position) :
    self.evaluate source (operand.into "split" [separator] places) =
      .ok (.ofTexts (splitText s value)) :=
  evaluate_into standard evaluated List.mem_cons_self (evaluateAll_singleton written) rfl places

theorem evaluate_split_texts {value : Value} {texts : List String} (found : value.texts? = some texts)
    (evaluated : self.evaluate source operand = .ok value) (places : Position × Position) :
    self.evaluate source (operand.into "split" [separator] places) =
      .ok (.ofTexts (texts.flatMap (splitText s))) := by
  have invoked : Builtin.split.invoke [value, .text s] =
      .ok (.ofTexts (texts.flatMap (splitText s))) := by
    rw [Function.invoke_split, Function.apply_of_texts? found]
    rfl
  exact evaluate_into standard evaluated List.mem_cons_self (evaluateAll_singleton written) invoked
    places

theorem evaluate_join {texts : List String}
    (evaluated : self.evaluate source operand = .ok (.ofTexts texts)) (places : Position × Position) :
    self.evaluate source (operand.into "join" [separator] places) =
      .ok (.text (s.intercalate texts)) := by
  have member : Builtin.join ∈ builtins := by simp [builtins]
  exact evaluate_into standard evaluated member (evaluateAll_singleton written)
    (Function.invoke_join texts s) places

theorem evaluate_replace (present : s ≠ "") {glue : Node} {t value : String}
    (put : self.evaluate source glue = .ok (.text t))
    (evaluated : self.evaluate source operand = .ok (.text value)) (places : Position × Position) :
    self.evaluate source (operand.into "replace" [separator, glue] places) =
      .ok (.text (replaceText s t value)) := by
  have member : Builtin.replace ∈ builtins := by simp [builtins]
  exact evaluate_into standard evaluated member (evaluateAll_pair written put)
    (Function.invoke_replace present value t) places

end

/-- Splitting and joining replace the separator, and undo each other, wherever no blanks and no empty
pieces get lost. -/
theorem split_join_replace (self : Evaluator) (source : Source) (standard : self.functions = .builtin)
    (separator : Node) (s : String) (written : self.evaluate source separator = .ok (.text s))
    (first second third : Position × Position) :
    (∀ (operand glue : Node) (v t : String) (pieces : List (List Char)),
      self.evaluate source operand = .ok (.text v) → self.evaluate source glue = .ok (.text t) →
      s ≠ "" → Pieces s.toList v.toList pieces → (∀ piece ∈ pieces, piece ≠ [] ∧ IsTrimmed piece) →
      (∃ text,
        self.evaluate source ((operand.into "split" [separator] first).into "join" [glue] second) =
          .ok (.text text) ∧
        self.evaluate source (operand.into "replace" [separator, glue] third) = .ok (.text text)) ∧
      self.evaluate source ((operand.into "split" [separator] first).into "join" [separator] second) =
        .ok (.text v)) ∧
    ∀ (operand : Node) (texts : List String), self.evaluate source operand = .ok (.ofTexts texts) →
      s.length = 1 → texts ≠ [] → (∀ text ∈ texts, IsPart s text) →
      self.evaluate source ((operand.into "join" [separator] first).into "split" [separator] second) =
        .ok (.ofTexts texts) := by
  constructor
  · intro operand glue v t pieces evaluated put present cutUp whole
    have parts := evaluate_split_text standard written evaluated first
    refine ⟨⟨replaceText s t v, ?_, evaluate_replace standard written present put evaluated third⟩, ?_⟩
    · rw [evaluate_join standard put parts, intercalate_splitText_eq_replaceText cutUp present whole]
    · rw [evaluate_join standard written parts, intercalate_splitText cutUp present whole]
  · intro operand texts evaluated single some areParts
    have joined := evaluate_join standard written evaluated first
    rw [evaluate_split_text standard written joined, splitText_intercalate single some areParts]

/-- A separator that overlaps itself, and a blank one. -/
theorem split_join_replace_dashes :
    let self : Evaluator := ⟨.builtin, {}⟩
    let constant (value : Value) : Node := .constant value .start
    let places : Position × Position := (.start, .start)
    let dashes := constant (.text "--")
    let plus := constant (.text "+")
    let blank := constant (.text " ")
    let dashed := constant (.text "a---b")
    let words := constant (.ofTexts ["a-b", "c"])
    ((∃ text,
        self.evaluate .empty ((dashed.into "split" [dashes] places).into "join" [plus] places) =
          .ok (.text text) ∧
        self.evaluate .empty (dashed.into "replace" [dashes, plus] places) = .ok (.text text)) ∧
      self.evaluate .empty ((dashed.into "split" [dashes] places).into "join" [dashes] places) =
        .ok (.text "a---b")) ∧
    self.evaluate .empty ((words.into "join" [blank] places).into "split" [blank] places) =
      .ok (.ofTexts ["a-b", "c"]) := by
  intro self constant places dashes plus blank dashed words
  have pieces : Pieces "--".toList "a---b".toList [['a'], ['-', 'b']] :=
    (pieces_iff (by decide)).mpr (by decide)
  constructor
  · exact (self.split_join_replace .empty rfl dashes "--" rfl places places places).1
      dashed plus "a---b" "+" _ rfl rfl (by decide) pieces (by decide)
  · exact (self.split_join_replace .empty rfl blank " " rfl places places places).2
      words ["a-b", "c"] rfl rfl (by decide) (by decide)

/-- Splitting makes parts that it leaves whole, also where it goes through the texts of a sequence. -/
theorem split_normal_form (self : Evaluator) (source : Source) (standard : self.functions = .builtin)
    (operand separator : Node) (value : Value) (s : String)
    (evaluated : self.evaluate source operand = .ok value) (textual : value.IsTextual)
    (written : self.evaluate source separator = .ok (.text s)) (first second : Position × Position) :
    ∃ parts : List String,
      self.evaluate source (operand.into "split" [separator] first) = .ok (.ofTexts parts) ∧
      (∀ part ∈ parts, IsPart s part) ∧
      (∀ texts, value.texts? = some texts → ∃ results,
        List.Forall₂ (fun text result => ∀ item, self.evaluate source item = .ok (.text text) →
          self.evaluate source (item.into "split" [separator] first) = .ok (.ofTexts result))
          texts results ∧ parts = results.flatten) ∧
      self.evaluate source ((operand.into "split" [separator] first).into "split" [separator] second) =
        .ok (.ofTexts parts) := by
  -- Splitting parts again gives them back, whatever they were made of.
  have again : ∀ {parts : List String}, (∀ part ∈ parts, IsPart s part) →
      self.evaluate source (operand.into "split" [separator] first) = .ok (.ofTexts parts) →
      self.evaluate source ((operand.into "split" [separator] first).into "split" [separator] second) =
        .ok (.ofTexts parts) := by
    intro parts areParts made
    rw [evaluate_split_texts standard written (Value.texts?_ofTexts parts) made,
      flatMap_splitText areParts]
  rcases textual.cases with ⟨content, rfl⟩ | ⟨contents, found⟩
  · have made := evaluate_split_text standard written evaluated first
    have areParts : ∀ part ∈ splitText s content, IsPart s part := fun _ => isPart_of_mem_splitText
    refine ⟨_, made, areParts, ?_, again areParts made⟩
    intro texts found
    cases found
  · have made := evaluate_split_texts standard written found evaluated first
    have areParts : ∀ part ∈ contents.flatMap (splitText s), IsPart s part := by
      intro part member
      obtain ⟨text, -, within⟩ := List.mem_flatMap.mp member
      exact isPart_of_mem_splitText within
    refine ⟨_, made, areParts, ?_, again areParts made⟩
    intro texts same
    obtain rfl := Option.some.inj (found.symm.trans same)
    refine ⟨contents.map (splitText s), ?_, List.flatMap_def⟩
    refine List.forall₂_map_right_iff.mpr (List.forall₂_same.mpr ?_)
    intro text _ item evaluated
    exact evaluate_split_text standard written evaluated first

/-- Two texts, one of them in pieces with blanks around them. -/
theorem split_normal_form_items :
    let self : Evaluator := ⟨.builtin, {}⟩
    let operand : Node := .constant (.tuple [.text " a ,,b", .text "c"]) .start
    let separator : Node := .constant (.text ",") .start
    let places : Position × Position := (.start, .start)
    ∃ parts : List String,
      self.evaluate .empty (operand.into "split" [separator] places) = .ok (.ofTexts parts) ∧
      (∀ part ∈ parts, IsPart "," part) ∧
      (∀ texts, (Value.tuple [.text " a ,,b", .text "c"]).texts? = some texts → ∃ results,
        List.Forall₂ (fun text result => ∀ item, self.evaluate .empty item = .ok (.text text) →
          self.evaluate .empty (item.into "split" [separator] places) = .ok (.ofTexts result))
          texts results ∧ parts = results.flatten) ∧
      self.evaluate .empty ((operand.into "split" [separator] places).into "split" [separator] places) =
        .ok (.ofTexts parts) :=
  split_normal_form ⟨.builtin, {}⟩ .empty rfl _ _ (.tuple [.text " a ,,b", .text "c"]) "," rfl
    (.inr rfl) rfl _ _

end Evaluator

end Stencil
