import Mathlib
import Stencil.Function.Builtin
import Stencil.Node.Parse
import Stencil.Proofs.Culprit.Blame
import Stencil.Proofs.NameTable
import Stencil.Proofs.Node.Names

/-! Evaluation depends on names up to their case, and on those alone that the tree uses. Two evaluations
of a tree in two spellings, over sources and functions that agree on these names, give the same text or fail
at the same place for the same reason. -/

namespace Stencil

open Text

/-- The same reason, but for the spelling of a name and for what is told about others. -/
inductive EvaluationCause.Alike : EvaluationCause → EvaluationCause → Prop where
  | unknownProperty {name other : String} (same : fold name = fold other)
      (available known : List String) :
      Alike (.unknownProperty name available) (.unknownProperty other known)
  | unknownFunction {name other : String} (same : fold name = fold other)
      (available known : List String) :
      Alike (.unknownFunction name available) (.unknownFunction other known)
  | failedCall {name other : String} (same : fold name = fold other) (cause : CallError) :
      Alike (.failedCall name cause) (.failedCall other cause)
  | pipeTarget (target other : String) : Alike (.pipeTarget target) (.pipeTarget other)
  | nestedTemplate : Alike .nestedTemplate .nestedTemplate

/-- Errors that point to the same place for the same reason; other failures are the same. -/
inductive Failure.Alike (places : String × Position → String × Position → Prop) :
    Failure → Failure → Prop where
  | template {cause other : EvaluationCause} {position place : Position} (alike : cause.Alike other)
      (same : places ((TemplateError.evaluation cause position).culprit, position)
        ((TemplateError.evaluation other place).culprit, place)) :
      Alike places (.template (.evaluation cause position)) (.template (.evaluation other place))
  | plain {failure : Failure} (unplaced : ∀ error, failure ≠ .template error) :
      Alike places failure failure

/-- The same result, or failures that are alike. -/
inductive SameOutcome (places : String × Position → String × Position → Prop) {α : Type} :
    Except Failure α → Except Failure α → Prop where
  | ok (value : α) : SameOutcome places (.ok value) (.ok value)
  | error {failure other : Failure} (alike : failure.Alike places other) :
      SameOutcome places (.error failure) (.error other)

/-- The same lines, and failures that are alike behind them or none. -/
def Rendering.SameOutcome (places : String × Position → String × Position → Prop)
    (rendering other : Rendering) : Prop :=
  rendering.lines = other.lines ∧
    Option.Rel (Failure.Alike places) rendering.failure other.failure

section

variable {places wider : String × Position → String × Position → Prop} {α β : Type}

theorem Failure.Alike.mono {failure other : Failure} (alike : failure.Alike places other)
    (weaker : ∀ mark mark', places mark mark' → wider mark mark') : failure.Alike wider other := by
  cases alike with
  | template alike same => exact .template alike (weaker _ _ same)
  | plain unplaced => exact .plain unplaced

theorem SameOutcome.mono {outcome other : Except Failure α}
    (same : SameOutcome places outcome other)
    (weaker : ∀ mark mark', places mark mark' → wider mark mark') :
    SameOutcome wider outcome other := by
  cases same with
  | ok value => exact .ok value
  | error alike => exact .error (alike.mono weaker)

theorem Failure.rel_alike_mono {failure other : Option Failure}
    (alike : Option.Rel (Failure.Alike places) failure other)
    (weaker : ∀ mark mark', places mark mark' → wider mark mark') :
    Option.Rel (Failure.Alike wider) failure other := by
  cases alike with
  | none => exact .none
  | some alike => exact .some (alike.mono weaker)

theorem Rendering.SameOutcome.mono {rendering other : Rendering}
    (same : rendering.SameOutcome places other)
    (weaker : ∀ mark mark', places mark mark' → wider mark mark') :
    rendering.SameOutcome wider other :=
  ⟨same.1, Failure.rel_alike_mono same.2 weaker⟩

theorem sameOutcome_of_ne_template {outcome : Except Failure α}
    (unplaced : ∀ error, outcome ≠ .error (.template error)) :
    SameOutcome places outcome outcome := by
  cases outcome with
  | ok value => exact .ok value
  | error failure =>
    refine .error (.plain ?_)
    rintro error rfl
    exact unplaced error rfl

theorem SameOutcome.bind {outcome other : Except Failure α} {next nextOther : α → Except Failure β}
    (first : SameOutcome places outcome other)
    (later : ∀ value, SameOutcome places (next value) (nextOther value)) :
    SameOutcome places (outcome >>= next) (other >>= nextOther) := by
  cases first with
  | ok value => exact later value
  | error alike => exact .error alike

end

namespace Evaluator

variable {functions functionsOther : Registry} {source sourceOther : Source} (options : Options)
  {places : String × Position → String × Position → Prop}

theorem property_sameOutcome {name other : String} {position place : Position}
    (same : fold name = fold other) (found : source.find? name = sourceOther.find? name)
    (marked : places (name, position) (other, place)) :
    SameOutcome places (property source name position) (property sourceOther other place) := by
  unfold property
  rw [found, sourceOther.find?_congr same]
  cases sourceOther.find? other with
  | some value => exact .ok value
  | none => exact .error (.template (.unknownProperty same _ _) marked)

theorem call_sameOutcome {name other : String} (values : List Value) {position place : Position}
    (same : fold name = fold other) (found : functions.find? name = functionsOther.find? name)
    (marked : places (name, position) (other, place)) :
    SameOutcome places (call functions name values position)
      (call functionsOther other values place) := by
  unfold call
  rw [found, functionsOther.find?_congr same]
  cases functionsOther.find? other with
  | none => exact .error (.template (.unknownFunction same _ _) marked)
  | some function =>
    simp only
    cases function.invoke values with
    | ok value => exact .ok value
    | error cause => exact .error (.template (.failedCall same cause) marked)

theorem renderPart_sameOutcome {node other : Node} (same : node.Respells other)
    (value : SameOutcome places ((Evaluator.mk functions options).evaluate source node)
      ((Evaluator.mk functionsOther options).evaluate sourceOther other)) :
    SameOutcome places ((Evaluator.mk functions options).renderPart source node)
      ((Evaluator.mk functionsOther options).renderPart sourceOther other) := by
  have shown : ∀ value, SameOutcome places (options.shown value) (options.shown value) := fun value =>
    sameOutcome_of_ne_template (shown_ne_template options value)
  cases node with
  | text content position =>
    cases other with
    | text contentOther place =>
      obtain ⟨rfl, -⟩ := Node.text.inj same
      exact .ok (some content)
    | _ => cases same
  | _ =>
    cases other with
    | text => cases same
    | _ => exact value.bind shown

section

variable {left leftOther : Node} {position place : Position}
  (operand : SameOutcome (left.SameMark leftOther)
    ((Evaluator.mk functions options).evaluate source left)
    ((Evaluator.mk functionsOther options).evaluate sourceOther leftOther))

include operand

theorem pipe_property_sameOutcome {name nameOther : String} {mark markOther : Position}
    (same : fold name = fold nameOther) (found : functions.find? name = functionsOther.find? name) :
    SameOutcome (Node.SameMark (.pipe left (.property name mark) position)
        (.pipe leftOther (.property nameOther markOther) place))
      ((Evaluator.mk functions options).evaluate source (.pipe left (.property name mark) position))
      ((Evaluator.mk functionsOther options).evaluate sourceOther
        (.pipe leftOther (.property nameOther markOther) place)) := by
  rw [evaluate, evaluate]
  refine SameOutcome.bind (operand.mono fun _ _ => Node.sameMark_left) ?_
  intro value
  exact call_sameOutcome [value] same found (Node.sameMark_right (Node.sameMark_here rfl rfl))

theorem pipe_call_sameOutcome {arguments argumentsOther : List Node}
    (operands : SameOutcome (Node.SameMarkAmong arguments argumentsOther)
      ((Evaluator.mk functions options).evaluateAll source arguments)
      ((Evaluator.mk functionsOther options).evaluateAll sourceOther argumentsOther))
    {name nameOther : String} {mark markOther : Position}
    (same : fold name = fold nameOther) (found : functions.find? name = functionsOther.find? name) :
    SameOutcome (Node.SameMark (.pipe left (.call name arguments mark) position)
        (.pipe leftOther (.call nameOther argumentsOther markOther) place))
      ((Evaluator.mk functions options).evaluate source (.pipe left (.call name arguments mark) position))
      ((Evaluator.mk functionsOther options).evaluate sourceOther
        (.pipe leftOther (.call nameOther argumentsOther markOther) place)) := by
  rw [evaluate, evaluate]
  refine SameOutcome.bind (operand.mono fun _ _ => Node.sameMark_left) ?_
  intro value
  refine SameOutcome.bind (operands.mono fun _ _ among =>
    Node.sameMark_right (Node.sameMark_of_children among)) ?_
  intro values
  exact call_sameOutcome (value :: values) same found
    (Node.sameMark_right (Node.sameMark_here rfl rfl))

/-- What can be no target of a pipe is not evaluated. -/
theorem pipe_other_sameOutcome {right rightOther : Node}
    (unnamed : ∀ name mark, right ≠ .property name mark)
    (uncalled : ∀ name arguments mark, right ≠ .call name arguments mark)
    (unnamedOther : ∀ name mark, rightOther ≠ .property name mark)
    (uncalledOther : ∀ name arguments mark, rightOther ≠ .call name arguments mark) :
    SameOutcome (Node.SameMark (.pipe left right position) (.pipe leftOther rightOther place))
      ((Evaluator.mk functions options).evaluate source (.pipe left right position))
      ((Evaluator.mk functionsOther options).evaluate sourceOther
        (.pipe leftOther rightOther place)) := by
  rw [evaluate_pipe_other _ _ unnamed uncalled, evaluate_pipe_other _ _ unnamedOther uncalledOther]
  refine SameOutcome.bind (operand.mono fun _ _ => Node.sameMark_left) ?_
  intro _
  exact .error (.template (.pipeTarget _ _) (Node.sameMark_here rfl rfl))

end

mutual

theorem evaluate_sameOutcome : (node other : Node) → node.Respells other →
    source.AgreesOn sourceOther node.valueNames →
    functions.AgreesOn functionsOther node.functionNames →
    SameOutcome (node.SameMark other) ((Evaluator.mk functions options).evaluate source node)
      ((Evaluator.mk functionsOther options).evaluate sourceOther other)
  | .text value position, other, same, _, _ => by
    cases other with
    | text valueOther place =>
      obtain ⟨rfl, -⟩ := Node.text.inj same
      exact .ok (Value.text value)
    | _ => cases same
  | .constant value position, other, same, _, _ => by
    cases other with
    | constant valueOther place =>
      obtain ⟨rfl, -⟩ := Node.constant.inj same
      exact .ok value
    | _ => cases same
  | .property name position, other, same, values, _ => by
    cases other with
    | property nameOther place =>
      obtain ⟨spelt, -⟩ := Node.property.inj same
      exact property_sameOutcome spelt (values name List.mem_cons_self) (Node.sameMark_here rfl rfl)
    | _ => cases same
  | .call name arguments position, other, same, values, calls => by
    cases other with
    | call nameOther argumentsOther place =>
      obtain ⟨spelt, inner, -⟩ := Node.call.inj same
      obtain ⟨called, within⟩ := List.forall_mem_cons.mp calls
      have operands := evaluateAll_sameOutcome arguments argumentsOther inner values within
      rw [evaluate, evaluate]
      refine SameOutcome.bind (operands.mono fun _ _ among => Node.sameMark_of_children among) ?_
      intro results
      exact call_sameOutcome results spelt called (Node.sameMark_here rfl rfl)
    | _ => cases same
  | .pipe left right position, other, same, values, calls => by
    cases other with
    | pipe leftOther rightOther place =>
      obtain ⟨first, target, -⟩ := Node.pipe.inj same
      cases right with
      | property name position =>
        cases rightOther with
        | property nameOther place =>
          obtain ⟨spelt, -⟩ := Node.property.inj target
          obtain ⟨called, within⟩ := List.forall_mem_cons.mp calls
          have operand := evaluate_sameOutcome left leftOther first values within
          exact pipe_property_sameOutcome options operand spelt called
        | _ => cases target
      | call name arguments position =>
        cases rightOther with
        | call nameOther argumentsOther place =>
          obtain ⟨spelt, inner, -⟩ := Node.call.inj target
          obtain ⟨called, within⟩ := List.forall_mem_cons.mp calls
          obtain ⟨callsLeft, callsInner⟩ := List.forall_mem_append.mp within
          obtain ⟨valuesLeft, valuesInner⟩ := List.forall_mem_append.mp values
          have operand := evaluate_sameOutcome left leftOther first valuesLeft callsLeft
          have operands := evaluateAll_sameOutcome arguments argumentsOther inner valuesInner callsInner
          exact pipe_call_sameOutcome options operand operands spelt called
        | _ => cases target
      | _ =>
        have operand := evaluate_sameOutcome left leftOther first values calls
        cases rightOther with
        | property => cases target
        | call => cases target
        | _ => exact pipe_other_sameOutcome options operand (by simp) (by simp) (by simp) (by simp)
    | _ => cases same
  | .line parts position, other, same, values, calls => by
    cases other with
    | line partsOther place =>
      obtain ⟨inner, -⟩ := Node.line.inj same
      have shown := renderParts_sameOutcome parts partsOther inner values calls
      rw [evaluate, evaluate]
      refine SameOutcome.bind (shown.mono fun _ _ among => Node.sameMark_of_children among) ?_
      intro texts
      refine SameOutcome.bind (sameOutcome_of_ne_template (showTexts_ne_template texts 0)) ?_
      intro text
      exact .ok (Value.text text)
    | _ => cases same
  | .template lines, other, same, _, _ => by
    cases other with
    | template linesOther => exact .error (.template .nestedTemplate (Node.sameMark_here rfl rfl))
    | _ => cases same
  | .bare, other, same, _, _ => by
    cases other with
    | bare => exact sameOutcome_of_ne_template (by simp [evaluate])
    | _ => cases same

theorem evaluateAll_sameOutcome : (nodes others : List Node) →
    Node.foldedAll nodes = Node.foldedAll others →
    source.AgreesOn sourceOther (Node.valueNamesAll nodes) →
    functions.AgreesOn functionsOther (Node.functionNamesAll nodes) →
    SameOutcome (Node.SameMarkAmong nodes others)
      ((Evaluator.mk functions options).evaluateAll source nodes)
      ((Evaluator.mk functionsOther options).evaluateAll sourceOther others)
  | [], others, same, _, _ => by
    cases others with
    | nil => exact .ok []
    | cons => cases same
  | node :: rest, others, same, values, calls => by
    cases others with
    | nil => cases same
    | cons other restOther =>
      obtain ⟨first, later⟩ := List.cons.inj same
      obtain ⟨valuesFirst, valuesLater⟩ := List.forall_mem_append.mp values
      obtain ⟨callsFirst, callsLater⟩ := List.forall_mem_append.mp calls
      have operand := evaluate_sameOutcome node other first valuesFirst callsFirst
      have operands := evaluateAll_sameOutcome rest restOther later valuesLater callsLater
      rw [evaluateAll, evaluateAll]
      apply (operand.mono fun _ _ => Node.sameMarkAmong_head).bind
      intro value
      exact (operands.mono fun _ _ => Node.sameMarkAmong_tail).bind fun results => .ok (value :: results)

theorem renderParts_sameOutcome : (nodes others : List Node) →
    Node.foldedAll nodes = Node.foldedAll others →
    source.AgreesOn sourceOther (Node.valueNamesAll nodes) →
    functions.AgreesOn functionsOther (Node.functionNamesAll nodes) →
    SameOutcome (Node.SameMarkAmong nodes others)
      ((Evaluator.mk functions options).renderParts source nodes)
      ((Evaluator.mk functionsOther options).renderParts sourceOther others)
  | [], others, same, _, _ => by
    cases others with
    | nil => exact .ok []
    | cons => cases same
  | node :: rest, others, same, values, calls => by
    cases others with
    | nil => cases same
    | cons other restOther =>
      obtain ⟨first, later⟩ := List.cons.inj same
      obtain ⟨valuesFirst, valuesLater⟩ := List.forall_mem_append.mp values
      obtain ⟨callsFirst, callsLater⟩ := List.forall_mem_append.mp calls
      have part := renderPart_sameOutcome options first
        (evaluate_sameOutcome node other first valuesFirst callsFirst)
      have parts := renderParts_sameOutcome rest restOther later valuesLater callsLater
      rw [renderParts_cons, renderParts_cons]
      apply (part.mono fun _ _ => Node.sameMarkAmong_head).bind
      intro text
      exact (parts.mono fun _ _ => Node.sameMarkAmong_tail).bind fun texts => .ok (text :: texts)

end

theorem renderLine_sameOutcome {line other : Line}
    (same : Node.foldedAll line.parts = Node.foldedAll other.parts)
    (values : source.AgreesOn sourceOther (Node.valueNamesAll line.parts))
    (calls : functions.AgreesOn functionsOther (Node.functionNamesAll line.parts)) :
    SameOutcome (line.toNode.SameMark other.toNode)
      ((Evaluator.mk functions options).renderLine source line)
      ((Evaluator.mk functionsOther options).renderLine sourceOther other) := by
  have shown := renderParts_sameOutcome options line.parts other.parts same values calls
  refine SameOutcome.bind (shown.mono fun _ _ among => Node.sameMark_of_children among) ?_
  intro texts
  exact sameOutcome_of_ne_template (showTexts_ne_template texts 0)

/-- Each line by itself, also behind one that fails. -/
theorem forall₂_renderLine : (lines others : List Line) →
    Node.foldedAll (lines.map Line.toNode) = Node.foldedAll (others.map Line.toNode) →
    source.AgreesOn sourceOther (Node.valueNamesAll (lines.map Line.toNode)) →
    functions.AgreesOn functionsOther (Node.functionNamesAll (lines.map Line.toNode)) →
    List.Forall₂ (fun line other => SameOutcome (line.toNode.SameMark other.toNode)
      ((Evaluator.mk functions options).renderLine source line)
      ((Evaluator.mk functionsOther options).renderLine sourceOther other)) lines others
  | [], [], _, _, _ => .nil
  | line :: rest, other :: restOther, same, values, calls => by
    obtain ⟨first, later⟩ := List.cons.inj same
    obtain ⟨valuesFirst, valuesLater⟩ := List.forall_mem_append.mp values
    obtain ⟨callsFirst, callsLater⟩ := List.forall_mem_append.mp calls
    have parts : Node.foldedAll line.parts = Node.foldedAll other.parts := (Node.line.inj first).1
    exact .cons (renderLine_sameOutcome options parts valuesFirst callsFirst)
      (forall₂_renderLine rest restOther later valuesLater callsLater)

/-- The lines before the first that fails, and its failure. -/
theorem renderLines_sameOutcome {self selfOther : Evaluator} {lines others : List Line}
    (same : List.Forall₂ (fun line other => SameOutcome (line.toNode.SameMark other.toNode)
      (self.renderLine source line) (selfOther.renderLine sourceOther other)) lines others) :
    (self.renderLines source lines).SameOutcome
      (Node.SameMarkAmong (lines.map Line.toNode) (others.map Line.toNode))
      (selfOther.renderLines sourceOther others) := by
  induction same with
  | nil => exact ⟨rfl, .none⟩
  | @cons line other rest restOther first _ ih =>
    generalize rendered : self.renderLine source line = outcome at first
    generalize renderedOther : selfOther.renderLine sourceOther other = outcomeOther at first
    cases first with
    | error alike =>
      rw [renderLines_of_error rendered, renderLines_of_error renderedOther]
      exact ⟨rfl, .some (alike.mono fun _ _ => Node.sameMarkAmong_head)⟩
    | ok text =>
      rw [renderLines_of_ok rendered, renderLines_of_ok renderedOther]
      exact ⟨congrArg (text :: ·) ih.1,
        Failure.rel_alike_mono ih.2 fun _ _ => Node.sameMarkAmong_tail⟩

theorem forall₂_render {first second : Template} (same : first.toNode.Respells second.toNode)
    (values : source.AgreesOn sourceOther first.valueNames)
    (calls : functions.AgreesOn functionsOther first.functionNames) :
    List.Forall₂ (fun line other => SameOutcome (line.toNode.SameMark other.toNode)
      ((Evaluator.mk functions options).renderLine source line)
      ((Evaluator.mk functionsOther options).renderLine sourceOther other))
      first.lines second.lines :=
  forall₂_renderLine options first.lines second.lines (Node.template.inj same) values calls

theorem render_sameOutcome {first second : Template} (same : first.toNode.Respells second.toNode)
    (values : source.AgreesOn sourceOther first.valueNames)
    (calls : functions.AgreesOn functionsOther first.functionNames) :
    ((Evaluator.mk functions options).render first source).SameOutcome
      (first.toNode.SameMark second.toNode)
      ((Evaluator.mk functionsOther options).render second sourceOther) :=
  (renderLines_sameOutcome (forall₂_render options same values calls)).mono fun _ _ among =>
    Node.sameMark_of_children among

/-- Only the names that a template uses matter, and only up to case: those of values in the source, those
of functions in the registry. A value under a name that is only called is such a name too many. -/
theorem render_respelled (options : Options) :
    (∀ (functions functionsOther : Registry) (source sourceOther : Source) (first second : Template),
      first.toNode.Respells second.toNode →
      source.AgreesOn sourceOther first.valueNames →
      functions.AgreesOn functionsOther first.functionNames →
      List.Forall₂ (fun line other => SameOutcome (line.toNode.SameMark other.toNode)
        ((Evaluator.mk functions options).renderLine source line)
        ((Evaluator.mk functionsOther options).renderLine sourceOther other))
        first.lines second.lines ∧
      ((Evaluator.mk functions options).render first source).SameOutcome
        (first.toNode.SameMark second.toNode)
        ((Evaluator.mk functionsOther options).render second sourceOther)) ∧
    (∀ (functions : Registry) (source : Source) (template : Template) (name : String) (value : Value),
      (∀ used ∈ template.valueNames, fold used ≠ fold name) →
      ((Evaluator.mk functions options).render template source).SameOutcome
        (template.toNode.SameMark template.toNode)
        ((Evaluator.mk functions options).render template (source.put name value))) ∧
    ∀ (functions : Registry) (source : Source) (template : Template) (function : Function),
      (∀ used ∈ template.functionNames, fold used ≠ fold function.name) →
      ((Evaluator.mk functions options).render template source).SameOutcome
        (template.toNode.SameMark template.toNode)
        ((Evaluator.mk (functions.add function) options).render template source) := by
  refine ⟨?_, ?_, ?_⟩
  · intro functions functionsOther source sourceOther first second same values calls
    exact ⟨forall₂_render options same values calls, render_sameOutcome options same values calls⟩
  · intro functions source template name value unused
    exact render_sameOutcome options rfl (source.agreesOn_put value unused) (functions.agreesOn_refl _)
  · intro functions source template function unused
    exact render_sameOutcome options rfl (source.agreesOn_refl _)
      (functions.agreesOn_put function unused)

end Evaluator

/-! ### Two spellings of a template -/

/-- A pipe into a bare name, and a call of an unknown function in the next line. -/
def mixedNames : Template :=
  ⟨[⟨[.pipe (.property "Straße" ⟨1, 1, 2⟩) (.property "upper" ⟨8, 1, 9⟩) ⟨7, 1, 8⟩,
      .text "!" ⟨14, 1, 15⟩], ⟨0, 1, 1⟩⟩,
    ⟨[.call "Gone" [.property "x" ⟨22, 2, 7⟩] ⟨17, 2, 2⟩], ⟨16, 2, 1⟩⟩]⟩

/-- The first name has one letter more, so what comes behind it stands further to the right. -/
def otherNames : Template :=
  ⟨[⟨[.pipe (.property "STRASSE" ⟨1, 1, 2⟩) (.property "Upper" ⟨9, 1, 10⟩) ⟨8, 1, 9⟩,
      .text "!" ⟨15, 1, 16⟩], ⟨0, 1, 1⟩⟩,
    ⟨[.call "gONE" [.property "X" ⟨23, 2, 7⟩] ⟨18, 2, 2⟩], ⟨17, 2, 1⟩⟩]⟩

theorem respells_mixedNames : mixedNames.toNode.Respells otherNames.toNode := by
  have street : fold "Straße" = fold "STRASSE" := by decide +kernel
  have upper : fold "upper" = fold "Upper" := by decide +kernel
  have gone : fold "Gone" = fold "gONE" := by decide +kernel
  have x : fold "x" = fold "X" := by decide +kernel
  simp only [Node.Respells, Template.toNode, mixedNames, otherNames, List.map_cons, List.map_nil,
    Line.toNode, Node.folded, Node.foldedAll, street, upper, gone, x]

/-- Both names, and a value under the name of a function. -/
def shadowed : Source :=
  ((NameTable.empty.put "X" (.text "b")).put "strasse" (.text "a")).put "UPPER" (.integer 1)

def unshadowed : Source := (NameTable.empty.put "Straße" (.text "a")).put "x" (.text "b")

theorem agreesOn_shadowed : shadowed.AgreesOn unshadowed mixedNames.valueNames := by
  have names : mixedNames.valueNames = ["Straße", "x"] := rfl
  intro name member
  simp only [names, List.mem_cons, List.not_mem_nil, or_false] at member
  rw [shadowed, unshadowed]
  simp only [NameTable.find?_put]
  rcases member with rfl | rfl
  · rw [if_neg (by decide +kernel), if_pos (by decide +kernel), if_neg (by decide +kernel),
      if_pos (by decide +kernel)]
  · rw [if_neg (by decide +kernel), if_neg (by decide +kernel), if_pos (by decide +kernel),
      if_pos (by decide +kernel)]

/-- A function that the templates do not call. -/
def shout : Function := ⟨"shout", [], Builtin.plain upper, elementwise (Builtin.plain upper)⟩

theorem agreesOn_shout :
    Registry.builtin.AgreesOn (Registry.builtin.add shout) mixedNames.functionNames :=
  Registry.builtin.agreesOn_put shout
    (show ∀ used ∈ ["upper", "Gone"], fold used ≠ fold "shout" by decide +kernel)

theorem render_respelled_mixedNames :
    parse "\x7bStraße|upper\x7d!\n\x7bGone(x)\x7d" = .ok mixedNames ∧
    parse "\x7bSTRASSE|Upper\x7d!\n\x7bgONE(X)\x7d" = .ok otherNames ∧
    mixedNames.toNode.Respells otherNames.toNode ∧
    shadowed.AgreesOn unshadowed mixedNames.valueNames ∧
    Registry.builtin.AgreesOn (Registry.builtin.add shout) mixedNames.functionNames ∧
    ((Evaluator.mk .builtin {}).render mixedNames shadowed).SameOutcome
      (mixedNames.toNode.SameMark otherNames.toNode)
      ((Evaluator.mk (Registry.builtin.add shout) {}).render otherNames unshadowed) := by
  have related := (Evaluator.render_respelled {}).1 .builtin (Registry.builtin.add shout) shadowed
    unshadowed mixedNames otherNames respells_mixedNames agreesOn_shadowed agreesOn_shout
  exact ⟨by cbv, by cbv, respells_mixedNames, agreesOn_shadowed, agreesOn_shout, related.2⟩

end Stencil
