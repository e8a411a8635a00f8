import Stencil.Proofs.Function.Textual

/-! What the standard functions hold against their further arguments. The operand has no say in it, with one
exception: a function that works on each element of a sequence by itself never looks at its arguments
where there is no element. -/

namespace Stencil

/-- Further arguments in the number and of the kinds that the function declares. -/
def Function.Accepts (function : Function) (arguments : List Value) : Prop :=
  List.Forall₂ (fun kind value => kind.fits value = true) function.parameters arguments

/-- On a sequence the function does with each text what it does with a single one. -/
def Function.IsElementwise (function : Function) : Prop :=
  function.onTexts = elementwise function.onText

/-- What is wrong with the further arguments of a standard function: a count is negative, or the text to
be replaced is empty. -/
def objection? : List Value → Option CallError
  | [.integer count] => if count < 0 then some (countError count) else none
  | [.text old, .text _] => if old = "" then some .emptyPattern else none
  | _ => none

/-- The function raises the objection on a text, and on a sequence unless it never gets to see the
arguments. -/
structure Function.Objects (function : Function) : Prop where
  onText : ∀ arguments cause, function.Accepts arguments → objection? arguments = some cause →
    ∀ value, function.onText value arguments = .error cause
  onTexts : ∀ arguments cause, function.Accepts arguments → objection? arguments = some cause →
    ∀ values, function.onTexts values arguments = .error cause ∨ function.IsElementwise ∧ values = []

theorem ParameterKind.exists_of_fits_text {value : Value}
    (fits : ParameterKind.text.fits value = true) : ∃ content, value = .text content := by
  cases value with
  | text content => exact ⟨content, rfl⟩
  | _ => cases fits

theorem ParameterKind.exists_of_fits_integer {value : Value}
    (fits : ParameterKind.integer.fits value = true) : ∃ count, value = .integer count := by
  cases value with
  | integer count => exact ⟨count, rfl⟩
  | _ => cases fits

theorem allFit_of_forall₂ {kinds : List ParameterKind} {values : List Value}
    (fits : List.Forall₂ (fun kind value => kind.fits value = true) kinds values) :
    allFit kinds values = true := by
  induction fits with
  | nil => rfl
  | cons first _ ih => rw [allFit, first, ih, Bool.and_true]

namespace Function

variable {function : Function} {arguments : List Value}

theorem invoke_of_accepts (accepted : function.Accepts arguments) (operand : Value) :
    function.invoke (operand :: arguments) = function.apply operand arguments := by
  rw [invoke, if_neg (not_not_intro accepted.length_eq.symm), if_pos (allFit_of_forall₂ accepted)]

/-! ### Arguments by their declaration -/

namespace Accepts

theorem eq_nil (accepted : function.Accepts arguments) (declared : function.parameters = []) :
    arguments = [] := by
  rw [Accepts, declared] at accepted
  exact List.forall₂_nil_left_iff.mp accepted

theorem exists_single (accepted : function.Accepts arguments) {kind : ParameterKind}
    (declared : function.parameters = [kind]) :
    ∃ value, arguments = [value] ∧ kind.fits value = true := by
  rw [Accepts, declared] at accepted
  obtain ⟨value, _, fits, none, rfl⟩ := List.forall₂_cons_left_iff.mp accepted
  exact ⟨value, by rw [List.forall₂_nil_left_iff.mp none], fits⟩

theorem exists_text (accepted : function.Accepts arguments)
    (declared : function.parameters = [.text]) : ∃ content, arguments = [.text content] := by
  obtain ⟨value, rfl, fits⟩ := accepted.exists_single declared
  obtain ⟨content, rfl⟩ := ParameterKind.exists_of_fits_text fits
  exact ⟨content, rfl⟩

theorem exists_integer (accepted : function.Accepts arguments)
    (declared : function.parameters = [.integer]) : ∃ count, arguments = [.integer count] := by
  obtain ⟨value, rfl, fits⟩ := accepted.exists_single declared
  obtain ⟨count, rfl⟩ := ParameterKind.exists_of_fits_integer fits
  exact ⟨count, rfl⟩

theorem exists_texts (accepted : function.Accepts arguments)
    (declared : function.parameters = [.text, .text]) :
    ∃ first second, arguments = [.text first, .text second] := by
  rw [Accepts, declared] at accepted
  obtain ⟨_, _, fits, others, rfl⟩ := List.forall₂_cons_left_iff.mp accepted
  obtain ⟨_, _, fitsToo, none, rfl⟩ := List.forall₂_cons_left_iff.mp others
  obtain rfl := List.forall₂_nil_left_iff.mp none
  obtain ⟨first, rfl⟩ := ParameterKind.exists_of_fits_text fits
  obtain ⟨second, rfl⟩ := ParameterKind.exists_of_fits_text fitsToo
  exact ⟨first, second, rfl⟩

end Accepts

/-! ### Objections of one function -/

theorem objects_of_unobjectionable
    (fine : ∀ arguments, function.Accepts arguments → objection? arguments = none) :
    function.Objects where
  onText arguments cause accepted objection := by
    rw [fine arguments accepted] at objection
    cases objection
  onTexts arguments cause accepted objection := by
    rw [fine arguments accepted] at objection
    cases objection

theorem objects_of_no_parameters (declared : function.parameters = []) : function.Objects := by
  refine objects_of_unobjectionable fun arguments accepted => ?_
  rw [accepted.eq_nil declared]
  rfl

/-- Any separator will do. -/
theorem objects_of_separator (declared : function.parameters = [.text]) : function.Objects := by
  refine objects_of_unobjectionable fun arguments accepted => ?_
  obtain ⟨separator, rfl⟩ := accepted.exists_text declared
  rfl

/-- The first element is enough for a refusal. -/
theorem elementwise_of_error {action : TextAction} {cause : CallError}
    (refused : ∀ value, action value arguments = .error cause) {values : List String}
    (nonempty : values ≠ []) : elementwise action values arguments = .error cause := by
  cases values with
  | nil => exact absurd rfl nonempty
  | cons value rest =>
    rw [elementwise, resultsOf, refused value]
    rfl

theorem objects_of_elementwise (each : function.IsElementwise)
    (onText : ∀ arguments cause, function.Accepts arguments → objection? arguments = some cause →
      ∀ value, function.onText value arguments = .error cause) : function.Objects where
  onText := onText
  onTexts arguments cause accepted objection values := by
    by_cases empty : values = []
    · exact .inr ⟨each, empty⟩
    · rw [each]
      exact .inl (elementwise_of_error (onText arguments cause accepted objection) empty)

/-! ### Arguments without an objection -/

theorem suits_of_no_parameters (declared : function.parameters = [])
    (accepted : function.Accepts arguments) : function.Suits arguments := by
  obtain rfl := accepted.eq_nil declared
  exact ⟨by rw [declared]; exact .nil, by simp⟩

theorem suits_of_separator (declared : function.parameters = [.text])
    (other : function.name ≠ "replace") (accepted : function.Accepts arguments) :
    function.Suits arguments := by
  obtain ⟨separator, rfl⟩ := accepted.exists_text declared
  exact ⟨by rw [declared]; exact .cons (.text separator) .nil, fun same => absurd same other⟩

theorem suits_of_count (declared : function.parameters = [.integer])
    (accepted : function.Accepts arguments) (fine : objection? arguments = none) :
    function.Suits arguments := by
  obtain ⟨count, rfl⟩ := accepted.exists_integer declared
  have positive : ¬count < 0 := by
    intro negative
    rw [objection?, if_pos negative] at fine
    cases fine
  obtain ⟨size, rfl⟩ := Int.eq_ofNat_of_zero_le (Int.not_lt.mp positive)
  exact ⟨by rw [declared]; exact .cons (.integer size) .nil, by simp⟩

theorem suits_of_pattern (declared : function.parameters = [.text, .text])
    (accepted : function.Accepts arguments) (fine : objection? arguments = none) :
    function.Suits arguments := by
  obtain ⟨old, new, rfl⟩ := accepted.exists_texts declared
  refine ⟨by rw [declared]; exact .cons (.text old) (.cons (.text new) .nil), ?_⟩
  rintro - others same
  obtain ⟨empty, -⟩ := List.cons.inj same
  rw [objection?, if_pos (Value.text.inj empty)] at fine
  cases fine

end Function

/-! ### The standard functions -/

namespace Builtin

theorem checkCount_of_objection {count : Int} {cause : CallError}
    (objection : objection? [.integer count] = some cause) : checkCount count = .error cause := by
  rw [objection?] at objection
  split at objection
  next negative =>
    rw [checkCount, if_pos negative, Option.some.inj objection]
  next => cases objection

theorem head_of_objection {count : Int} {cause : CallError}
    (objection : objection? [.integer count] = some cause) (value : String) :
    head value [.integer count] = .error cause := by
  rw [head, checkCount_of_objection objection]
  rfl

theorem objects_head (name : String) :
    Function.Objects ⟨name, [.integer], head, elementwise head⟩ :=
  Function.objects_of_elementwise rfl fun arguments cause accepted objection => by
    obtain ⟨count, rfl⟩ := accepted.exists_integer rfl
    exact head_of_objection objection

theorem objects_skip : skip.Objects where
  onText arguments cause accepted objection value := by
    obtain ⟨count, rfl⟩ := accepted.exists_integer rfl
    simp only [skip, checkCount_of_objection objection]
    rfl
  onTexts arguments cause accepted objection values := by
    obtain ⟨count, rfl⟩ := accepted.exists_integer rfl
    left
    simp only [skip, checkCount_of_objection objection]
    rfl

theorem objects_take : take.Objects where
  onText arguments cause accepted objection value := by
    obtain ⟨count, rfl⟩ := accepted.exists_integer rfl
    exact head_of_objection objection value
  onTexts arguments cause accepted objection values := by
    obtain ⟨count, rfl⟩ := accepted.exists_integer rfl
    left
    simp only [take, checkCount_of_objection objection]
    rfl

theorem objects_replace : replace.Objects :=
  Function.objects_of_elementwise rfl fun arguments cause accepted objection value => by
    obtain ⟨old, new, rfl⟩ := accepted.exists_texts rfl
    rw [objection?] at objection
    split at objection
    next empty =>
      cases objection
      exact if_pos empty
    next => cases objection

end Builtin

open Builtin in
theorem objects_of_mem_builtins {function : Function} (standard : function ∈ builtins) :
    function.Objects := by
  simp only [builtins, List.mem_cons, List.not_mem_nil, or_false] at standard
  rcases standard with rfl | rfl | rfl | rfl | rfl | rfl | rfl | rfl | rfl | rfl | rfl
  exacts [Function.objects_of_separator rfl, Function.objects_of_separator rfl, objects_skip,
    objects_take, objects_head "substr", objects_replace, Function.objects_of_no_parameters rfl,
    Function.objects_of_no_parameters rfl, Function.objects_of_no_parameters rfl,
    Function.objects_of_no_parameters rfl, objects_head "truncate"]

open Stencil.Function in
theorem suits_of_mem_builtins {function : Function} (standard : function ∈ builtins)
    {arguments : List Value} (accepted : function.Accepts arguments)
    (fine : objection? arguments = none) : function.Suits arguments := by
  simp only [builtins, List.mem_cons, List.not_mem_nil, or_false] at standard
  rcases standard with rfl | rfl | rfl | rfl | rfl | rfl | rfl | rfl | rfl | rfl | rfl
  exacts [suits_of_separator rfl (by decide) accepted, suits_of_separator rfl (by decide) accepted,
    suits_of_count rfl accepted fine, suits_of_count rfl accepted fine,
    suits_of_count rfl accepted fine, suits_of_pattern rfl accepted fine,
    suits_of_no_parameters rfl accepted, suits_of_no_parameters rfl accepted,
    suits_of_no_parameters rfl accepted, suits_of_no_parameters rfl accepted,
    suits_of_count rfl accepted fine]

/-- A function that is not elementwise gives itself away on some sequence. -/
theorem Function.not_isElementwise {function : Function} (values : List String)
    (arguments : List Value)
    (differs : (function.onTexts values arguments).toOption.bind Value.texts? ≠
      (elementwise function.onText values arguments).toOption.bind Value.texts?) :
    ¬function.IsElementwise := fun each => differs (by rw [each])

open Builtin in
theorem isElementwise_iff_of_mem_builtins {function : Function} (standard : function ∈ builtins) :
    function.IsElementwise ↔
      function.name ∈ ["substr", "replace", "upper", "lower", "trim", "truncate"] := by
  have notSplit : ¬split.IsElementwise := Function.not_isElementwise ["a"] [.text ""] (by decide)
  have notJoin : ¬join.IsElementwise := Function.not_isElementwise [] [.text ""] (by decide)
  have notSkip : ¬skip.IsElementwise := Function.not_isElementwise ["a"] [.integer 1] (by decide)
  have notTake : ¬take.IsElementwise := Function.not_isElementwise ["a"] [.integer 0] (by decide)
  have notReverse : ¬reverse.IsElementwise := Function.not_isElementwise ["a", "b"] [] (by decide)
  simp only [builtins, List.mem_cons, List.not_mem_nil, or_false] at standard
  rcases standard with rfl | rfl | rfl | rfl | rfl | rfl | rfl | rfl | rfl | rfl | rfl
  exacts [iff_of_false notSplit (by decide), iff_of_false notJoin (by decide),
    iff_of_false notSkip (by decide), iff_of_false notTake (by decide),
    iff_of_true rfl (by decide), iff_of_true rfl (by decide),
    iff_of_false notReverse (by decide), iff_of_true rfl (by decide),
    iff_of_true rfl (by decide), iff_of_true rfl (by decide), iff_of_true rfl (by decide)]

/-- What a standard function refuses depends on its further arguments alone, as long as there is an
operand to look at. Only a function that works on each element by itself passes over arguments that it
refuses elsewhere: it has nothing to do on an empty sequence. -/
theorem invoke_eq_error_iff_objection {function : Function} (standard : function ∈ builtins)
    {arguments : List Value} (accepted : function.Accepts arguments) {operand : Value}
    (textual : operand.IsTextual) :
    (∀ cause, function.invoke (operand :: arguments) = .error cause ↔
      objection? arguments = some cause ∧
        ¬(function.IsElementwise ∧ operand.texts? = some [])) ∧
    (function.IsElementwise ↔
      function.name ∈ ["substr", "replace", "upper", "lower", "trim", "truncate"]) := by
  refine ⟨fun cause => ?_, isElementwise_iff_of_mem_builtins standard⟩
  cases objection : objection? arguments with
  | none =>
    have suits := suits_of_mem_builtins standard accepted objection
    obtain ⟨result, done, -⟩ := (isClosed_of_mem_builtins standard).invoke suits textual
    rw [done]
    simp
  | some reason =>
    have objects := objects_of_mem_builtins standard
    rw [Function.invoke_of_accepts accepted, Option.some.injEq]
    rcases textual.cases with ⟨value, rfl⟩ | ⟨values, found⟩
    · have single : (Value.text value).texts? ≠ some [] := by simp [Value.texts?, Value.items?]
      rw [Function.apply, objects.onText arguments reason accepted objection value]
      simp [single]
    · rw [Function.apply_of_texts? found, found, Option.some.injEq]
      by_cases unseen : function.IsElementwise ∧ values = []
      · rw [unseen.1, unseen.2]
        simp [unseen.1, elementwise, resultsOf, Except.map]
      · have refused := (objects.onTexts arguments reason accepted objection values).resolve_right unseen
        rw [refused]
        simp [unseen]

/-- The first of two elements is enough. -/
theorem invoke_eq_error_iff_objection_truncate :
    Builtin.truncate ∈ builtins ∧ Builtin.truncate.Accepts [.integer (-3)] ∧
    (Value.tuple [.text "", .text "ab"]).IsTextual ∧
    Builtin.truncate.invoke [.tuple [.text "", .text "ab"], .integer (-3)] =
      .error (countError (-3)) := by
  have standard : Builtin.truncate ∈ builtins := by simp [builtins]
  have accepted : Builtin.truncate.Accepts [.integer (-3)] := .cons rfl .nil
  have textual : (Value.tuple [.text "", .text "ab"]).IsTextual := .inr rfl
  refine ⟨standard, accepted, textual, ?_⟩
  apply ((invoke_eq_error_iff_objection standard accepted textual).1 _).mpr
  refine ⟨rfl, fun unseen => ?_⟩
  cases unseen.2

/-- A negative count is refused for a text, and by the function that cuts a sequence as a whole for the
empty sequence as well, but not by the one that cuts each element. -/
theorem substr_passes_negative_count :
    Builtin.substr ∈ builtins ∧ Builtin.substr.Accepts [.integer (-1)] ∧
    (Value.text "ab").IsTextual ∧ (Value.list []).IsTextual ∧
    Builtin.substr.invoke [.text "ab", .integer (-1)] = .error (.negativeCount (-1)) ∧
    Builtin.take.invoke [.list [], .integer (-1)] = .error (.negativeCount (-1)) ∧
    Builtin.substr.invoke [.list [], .integer (-1)] = .ok (.list []) := by
  have count : countError (-1) = .negativeCount (-1) := if_pos (by decide +kernel)
  refine ⟨by simp [builtins], .cons rfl .nil, .inl rfl, .inr rfl, ?_, ?_, rfl⟩
  · rw [← count]
    rfl
  · rw [← count]
    rfl

end Stencil
