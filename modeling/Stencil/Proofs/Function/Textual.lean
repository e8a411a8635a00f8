import Stencil.Function.Builtin
import Stencil.Proofs.NameTable

/-! The standard functions work on texts. Given a text or a sequence of texts, and further arguments as
they are declared, each of them makes a text or a sequence of texts again. -/

namespace Stencil

open Text

/-- A text, or a list or tuple made of texts only. -/
def Value.IsTextual (value : Value) : Prop := value.isText = true ∨ value.isSequence = true

/-- A number that is not negative, or a text, as the parameter is declared. -/
inductive ParameterKind.Takes : ParameterKind → Value → Prop where
  | text (value : String) : Takes .text (.text value)
  | integer (count : Nat) : Takes .integer (.integer count)

/-- Arguments behind the operand as the function declares them. An empty text cannot be replaced. -/
structure Function.Suits (function : Function) (arguments : List Value) : Prop where
  fits : List.Forall₂ ParameterKind.Takes function.parameters arguments
  pattern : function.name = "replace" → ∀ others, arguments ≠ .text "" :: others

/-- The function makes a text or a sequence of texts out of every operand. -/
structure Function.IsClosed (function : Function) : Prop where
  onText : ∀ arguments, function.Suits arguments → ∀ value, ∃ result,
    function.onText value arguments = .ok result ∧ result.IsTextual
  onTexts : ∀ arguments, function.Suits arguments → ∀ values, ∃ result,
    function.onTexts values arguments = .ok result ∧ result.IsTextual

namespace Value

theorem isTextual_text (value : String) : (text value).IsTextual := .inl rfl

theorem isTextual_ofTexts (values : List String) : (ofTexts values).IsTextual := by
  right
  rw [isSequence, texts?_ofTexts, Option.isSome_some]

/-- An operand is a text, or has texts for its items. -/
theorem IsTextual.cases {value : Value} (textual : value.IsTextual) :
    (∃ content, value = text content) ∨ ∃ contents, value.texts? = some contents := by
  rcases textual with isText | sequence
  · cases value with
    | text content => exact .inl ⟨content, rfl⟩
    | _ => cases isText
  · exact .inr (Option.isSome_iff_exists.mp sequence)

end Value

/-! ### Calls -/

theorem ParameterKind.Takes.fits {kind : ParameterKind} {value : Value} (takes : kind.Takes value) :
    kind.fits value = true := by
  cases takes <;> rfl

theorem allFit_of_takes {kinds : List ParameterKind} {values : List Value}
    (takes : List.Forall₂ ParameterKind.Takes kinds values) : allFit kinds values = true := by
  induction takes with
  | nil => rfl
  | cons first _ ih => rw [allFit, first.fits, ih, Bool.and_true]

namespace Function

variable {function : Function} {arguments : List Value}

theorem invoke_of_suits (suits : function.Suits arguments) (operand : Value) :
    function.invoke (operand :: arguments) = function.apply operand arguments := by
  rw [invoke, if_neg (not_not_intro suits.fits.length_eq.symm), if_pos (allFit_of_takes suits.fits)]

theorem apply_of_texts? {operand : Value} {values : List String}
    (found : operand.texts? = some values) :
    function.apply operand arguments = function.onTexts values arguments := by
  cases operand with
  | text => cases found
  | _ => simp only [apply, found]

theorem IsClosed.invoke (closed : function.IsClosed) (suits : function.Suits arguments)
    {operand : Value} (textual : operand.IsTextual) :
    ∃ result, function.invoke (operand :: arguments) = .ok result ∧ result.IsTextual := by
  rw [invoke_of_suits suits]
  rcases textual.cases with ⟨value, rfl⟩ | ⟨values, found⟩
  · exact closed.onText arguments suits value
  · rw [apply_of_texts? found]
    exact closed.onTexts arguments suits values

/-! ### Arguments by their declaration -/

theorem Suits.exists_single (suits : function.Suits arguments) {kind : ParameterKind}
    (declared : function.parameters = [kind]) : ∃ value, arguments = [value] ∧ kind.Takes value := by
  have fits := suits.fits
  rw [declared] at fits
  obtain ⟨value, _, takes, none, rfl⟩ := List.forall₂_cons_left_iff.mp fits
  exact ⟨value, by rw [List.forall₂_nil_left_iff.mp none], takes⟩

theorem Suits.exists_text (suits : function.Suits arguments)
    (declared : function.parameters = [.text]) : ∃ value, arguments = [.text value] := by
  obtain ⟨_, rfl, takes⟩ := suits.exists_single declared
  cases takes with
  | text value => exact ⟨value, rfl⟩

theorem Suits.exists_integer (suits : function.Suits arguments)
    (declared : function.parameters = [.integer]) :
    ∃ count : Nat, arguments = [.integer count] := by
  obtain ⟨_, rfl, takes⟩ := suits.exists_single declared
  cases takes with
  | integer count => exact ⟨count, rfl⟩

end Function

/-! ### The standard functions -/

/-- The action makes a text out of every text. -/
def TextAction.IsTotal (action : TextAction) (arguments : List Value) : Prop :=
  ∀ value, ∃ result, action value arguments = .ok (.text result)

theorem exists_resultsOf {action : TextAction} {arguments : List Value}
    (total : action.IsTotal arguments) (values : List String) :
    ∃ results : List String, resultsOf action arguments values = .ok (results.map .text) := by
  induction values with
  | nil => exact ⟨[], rfl⟩
  | cons value rest ih =>
    obtain ⟨first, made⟩ := total value
    obtain ⟨others, more⟩ := ih
    exact ⟨first :: others, by rw [resultsOf, made, more]; rfl⟩

/-- An action on each text is enough for both kinds of operands. -/
theorem Function.isClosed_of_isTotal {name : String} {parameters : List ParameterKind}
    {action : TextAction}
    (total : ∀ arguments, Function.Suits ⟨name, parameters, action, elementwise action⟩ arguments →
      action.IsTotal arguments) :
    Function.IsClosed ⟨name, parameters, action, elementwise action⟩ where
  onText arguments suits value := by
    obtain ⟨result, made⟩ := total arguments suits value
    exact ⟨.text result, made, Value.isTextual_text result⟩
  onTexts arguments suits values := by
    obtain ⟨results, made⟩ := exists_resultsOf (total arguments suits) values
    exact ⟨.ofTexts results, congrArg (Except.map Value.list) made, Value.isTextual_ofTexts results⟩

namespace Builtin

theorem checkCount_natCast (count : Nat) : checkCount count = .ok count := by
  rw [checkCount, if_neg (Int.not_lt.mpr (Int.natCast_nonneg count)), Int.toNat_natCast]

theorem head_natCast (value : String) (count : Nat) :
    head value [.integer count] = .ok (.text (takeText count value)) := by
  rw [head, checkCount_natCast]
  rfl

/-- On each text alike, a change that takes no further argument. -/
theorem isClosed_plain (name : String) (change : String → String) :
    Function.IsClosed ⟨name, [], plain change, elementwise (plain change)⟩ :=
  Function.isClosed_of_isTotal fun _ _ value => ⟨change value, rfl⟩

theorem isClosed_head (name : String) :
    Function.IsClosed ⟨name, [.integer], head, elementwise head⟩ :=
  Function.isClosed_of_isTotal fun _ suits value => by
    obtain ⟨count, rfl⟩ := suits.exists_integer rfl
    exact ⟨takeText count value, head_natCast value count⟩

theorem isClosed_split : split.IsClosed where
  onText arguments suits value := by
    obtain ⟨separator, rfl⟩ := suits.exists_text rfl
    exact ⟨_, rfl, Value.isTextual_ofTexts _⟩
  onTexts arguments suits values := by
    obtain ⟨separator, rfl⟩ := suits.exists_text rfl
    exact ⟨_, rfl, Value.isTextual_ofTexts _⟩

theorem isClosed_join : join.IsClosed where
  onText _ _ value := ⟨_, rfl, Value.isTextual_text value⟩
  onTexts arguments suits values := by
    obtain ⟨separator, rfl⟩ := suits.exists_text rfl
    exact ⟨_, rfl, Value.isTextual_text _⟩

theorem isClosed_skip : skip.IsClosed where
  onText arguments suits value := by
    obtain ⟨count, rfl⟩ := suits.exists_integer rfl
    refine ⟨.text (skipText count value), ?_, Value.isTextual_text _⟩
    simp only [skip, checkCount_natCast]
    rfl
  onTexts arguments suits values := by
    obtain ⟨count, rfl⟩ := suits.exists_integer rfl
    refine ⟨.ofTexts (values.drop count), ?_, Value.isTextual_ofTexts _⟩
    simp only [skip, checkCount_natCast]
    rfl

theorem isClosed_take : take.IsClosed where
  onText arguments suits value := by
    obtain ⟨count, rfl⟩ := suits.exists_integer rfl
    exact ⟨_, head_natCast value count, Value.isTextual_text _⟩
  onTexts arguments suits values := by
    obtain ⟨count, rfl⟩ := suits.exists_integer rfl
    refine ⟨.ofTexts (values.take count), ?_, Value.isTextual_ofTexts _⟩
    simp only [take, checkCount_natCast]
    rfl

theorem isClosed_replace : replace.IsClosed :=
  Function.isClosed_of_isTotal fun arguments suits => by
    obtain ⟨_, _, first, rest, rfl⟩ := List.forall₂_cons_left_iff.mp suits.fits
    obtain ⟨_, _, second, none, rfl⟩ := List.forall₂_cons_left_iff.mp rest
    obtain rfl := List.forall₂_nil_left_iff.mp none
    cases first with
    | text old =>
      cases second with
      | text new =>
        have present : old ≠ "" := fun empty => suits.pattern rfl _ (by rw [empty])
        exact fun value => ⟨replaceText old new value, if_neg present⟩

theorem isClosed_reverse : reverse.IsClosed where
  onText _ _ _ := ⟨_, rfl, Value.isTextual_text _⟩
  onTexts _ _ _ := ⟨_, rfl, Value.isTextual_ofTexts _⟩

end Builtin

open Builtin in
theorem isClosed_of_mem_builtins {function : Function} (standard : function ∈ builtins) :
    function.IsClosed := by
  simp only [builtins, List.mem_cons, List.not_mem_nil, or_false] at standard
  rcases standard with rfl | rfl | rfl | rfl | rfl | rfl | rfl | rfl | rfl | rfl | rfl
  exacts [isClosed_split, isClosed_join, isClosed_skip, isClosed_take, isClosed_head "substr",
    isClosed_replace, isClosed_reverse, isClosed_plain "upper" Text.upper,
    isClosed_plain "lower" Text.lower, isClosed_plain "trim" Text.trim, isClosed_head "truncate"]

namespace Registry

theorem nodup_builtins : (builtins.map fun function => fold function.name).Nodup := by
  decide +kernel

/-- Functions of new names are added behind the others. -/
theorem entries_foldl_add {functions : List Function} (registry : Registry)
    (distinct : (foldedNames registry.entries ++
      functions.map fun function => fold function.name).Nodup) :
    (functions.foldl add registry).entries =
      registry.entries ++ functions.map fun function => (function.name, function) := by
  induction functions generalizing registry with
  | nil => exact (List.append_nil _).symm
  | cons function rest ih =>
    have new : fold function.name ∉ foldedNames registry.entries := fun known =>
      List.disjoint_of_nodup_append distinct known List.mem_cons_self
    have entries : (registry.add function).entries =
        registry.entries ++ [(function.name, function)] := NameTable.putIn_of_new new function
    have still : (foldedNames (registry.add function).entries ++
        rest.map fun function => fold function.name).Nodup := by
      rw [entries, foldedNames, List.map_append, List.append_assoc]
      exact distinct
    rw [List.foldl_cons, ih _ still, entries, List.append_assoc]
    rfl

/-- Each standard function is found under every spelling of its name. -/
theorem find?_builtin {function : Function} (standard : function ∈ builtins) {name : String}
    (same : fold name = fold function.name) : builtin.find? name = some function := by
  have entries : builtin.entries = builtins.map fun function => (function.name, function) :=
    entries_foldl_add .empty nodup_builtins
  have member : (function.name, function) ∈ builtin.entries := by
    rw [entries]
    exact List.mem_map_of_mem standard
  exact builtin.find?_of_mem member same.symm

end Registry

end Stencil
