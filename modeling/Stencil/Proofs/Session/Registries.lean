import Mathlib.Logic.Function.Basic
import Stencil.Proofs.Function.Additions
import Stencil.Proofs.Session.Steps

/-! Registries along a session. A ledger tells which functions were added to each of them; every step keeps
the registries as the ledger tells, and changes at most the one that it adds a function to. -/

namespace Stencil

/-- What was done to registries: the functions added to each of them, the first one first, and the
registry that a name was given to last. -/
structure Ledger where
  pages : List (List Function)
  ref? : String → Option RegistryRef

namespace Ledger

/-- The shared registry, which holds the standard functions and has no name. -/
def start : Ledger := ⟨[builtins], fun _ => none⟩

/-- The functions added to one registry. -/
def page (ledger : Ledger) (ref : RegistryRef) : List Function := ledger.pages.getD ref []

def entitle (ledger : Ledger) (name : String) (ref : RegistryRef) : Ledger :=
  { ledger with ref? := Function.update ledger.ref? name (some ref) }

/-- A new registry with a name of its own, to which some functions were added before. -/
def issue (ledger : Ledger) (name : String) (additions : List Function) : Ledger :=
  ⟨ledger.pages ++ [additions], Function.update ledger.ref? name (some ledger.pages.length)⟩

/-- A function is added to one registry. -/
def write (ledger : Ledger) (ref : RegistryRef) (function : Function) : Ledger :=
  { ledger with pages := ledger.pages.set ref (ledger.page ref ++ [function]) }

/-- A function is registered. Without a name it is refused. -/
def register (ledger : Ledger) (ref : RegistryRef) (function : Function) : Ledger :=
  if function.name = "" then ledger else ledger.write ref function

/-- The registry that a step adds a function to. -/
def target? (ledger : Ledger) : Step → Option RegistryRef
  | .act (.register name _) => ledger.ref? name
  | .act (.registerShared _) => some sharedRegistry
  | .act (.add name _) => ledger.ref? name
  | _ => none

/-- The ledger behind a step. A copy starts with the functions of its original. -/
def record (ledger : Ledger) : Step → Ledger
  | .act (.registry .empty name) => ledger.issue name []
  | .act (.registry .builtin name) => ledger.issue name builtins
  | .act (.registry .shared name) => ledger.entitle name sharedRegistry
  | .act (.copy original name) =>
    match ledger.ref? original with
    | some ref => ledger.issue name (ledger.page ref)
    | none => ledger
  | .act (.register name function) =>
    match ledger.ref? name with
    | some ref => ledger.register ref function
    | none => ledger
  | .act (.registerShared function) => ledger.register sharedRegistry function
  | .act (.add name function) =>
    match ledger.ref? name with
    | some ref => ledger.write ref function
    | none => ledger
  | _ => ledger

theorem ref?_entitle (ledger : Ledger) (name other : String) (ref : RegistryRef) :
    (ledger.entitle name ref).ref? other = if other = name then some ref else ledger.ref? other :=
  Function.update_apply ledger.ref? name (some ref) other

theorem ref?_issue (ledger : Ledger) (name other : String) (additions : List Function) :
    (ledger.issue name additions).ref? other =
      if other = name then some ledger.pages.length else ledger.ref? other :=
  Function.update_apply ledger.ref? name (some ledger.pages.length) other

theorem pages_write (ledger : Ledger) {ref other : RegistryRef} (function : Function)
    (different : ref ≠ other) : (ledger.write ref function).pages[other]? = ledger.pages[other]? :=
  List.getElem?_set_ne different

theorem pages_register (ledger : Ledger) {ref other : RegistryRef} (function : Function)
    (different : ref ≠ other) :
    (ledger.register ref function).pages[other]? = ledger.pages[other]? := by
  unfold register
  split
  next => rfl
  next => exact ledger.pages_write function different

/-- A step writes on the page of its registry only. -/
theorem pages_record (ledger : Ledger) (step : Step) {ref : RegistryRef}
    (known : ref < ledger.pages.length) (other : ledger.target? step ≠ some ref) :
    (ledger.record step).pages[ref]? = ledger.pages[ref]? := by
  have kept : ∀ name additions, (ledger.issue name additions).pages[ref]? = ledger.pages[ref]? :=
    fun _ _ => List.getElem?_append_left known
  unfold record
  split
  next => exact kept _ _
  next => exact kept _ _
  next => rfl
  next =>
    split
    next => exact kept _ _
    next => rfl
  next name function =>
    split
    next found same =>
      rw [target?, same] at other
      exact ledger.pages_register function fun equal => other (congrArg some equal)
    next => rfl
  next function => exact ledger.pages_register function fun equal => other (congrArg some equal)
  next name function =>
    split
    next found same =>
      rw [target?, same] at other
      exact ledger.pages_write function fun equal => other (congrArg some equal)
    next => rfl
  next => rfl

end Ledger

namespace Session

/-- The registries are made as the ledger tells, and names refer to the same ones. -/
structure Keeps (session : Session) (ledger : Ledger) : Prop where
  registries : session.registries = ledger.pages.map Registry.ofAdditions
  named : ∀ name, session.registryNames.lookup name = ledger.ref? name
  known : ∀ name ref, ledger.ref? name = some ref → ref < ledger.pages.length
  shared : sharedRegistry < ledger.pages.length

theorem keeps_start : start.Keeps .start where
  registries := rfl
  named _ := rfl
  known _ _ found := by cases found
  shared := Nat.zero_lt_one

theorem register_of_error {session : Session} {ledger : Ledger} {ref : RegistryRef}
    {function : Function} {failure : Failure}
    (failed : session.registerAt ref function = .error failure) :
    ledger.register ref function = ledger := by
  unfold registerAt Registry.register at failed
  rw [Ledger.register]
  split at failed
  next empty => rw [if_pos empty]
  next => cases failed

namespace Keeps

variable {session : Session} {ledger : Ledger}

theorem registryAt_eq (keeps : session.Keeps ledger) (ref : RegistryRef) :
    session.registryAt ref = .ofAdditions (ledger.page ref) := by
  rw [registryAt, keeps.registries, Ledger.page, List.getD_eq_getElem?_getD, List.getElem?_map,
    List.getD_eq_getElem?_getD]
  cases ledger.pages[ref]? <;> rfl

theorem of_same {next : Session} (keeps : session.Keeps ledger)
    (registries : next.registries = session.registries)
    (names : next.registryNames = session.registryNames) : next.Keeps ledger where
  registries := registries.trans keeps.registries
  named name := by rw [names, keeps.named]
  known := keeps.known
  shared := keeps.shared

theorem addRegistry (keeps : session.Keeps ledger) (name : String) (additions : List Function) :
    (session.addRegistry name (.ofAdditions additions)).Keeps (ledger.issue name additions) where
  registries := by
    rw [Session.addRegistry, keeps.registries, Ledger.issue, List.map_append, List.map_singleton]
  named other := by
    rw [Session.addRegistry, lookup_setEntry, keeps.registries, List.length_map, keeps.named,
      Ledger.ref?_issue]
  known other ref found := by
    rw [Ledger.issue, List.length_append, List.length_singleton]
    rw [Ledger.ref?_issue] at found
    split at found
    next =>
      cases found
      exact Nat.lt_succ_self _
    next => exact Nat.lt_succ_of_lt (keeps.known other ref found)
  shared := by
    rw [Ledger.issue, List.length_append]
    exact Nat.lt_add_right 1 keeps.shared

theorem nameRegistry (keeps : session.Keeps ledger) (name : String) {ref : RegistryRef}
    (inside : ref < ledger.pages.length) :
    (session.nameRegistry name ref).Keeps (ledger.entitle name ref) where
  registries := keeps.registries
  named other := by
    rw [Session.nameRegistry, lookup_setEntry, keeps.named, Ledger.ref?_entitle]
  known other found same := by
    rw [Ledger.ref?_entitle] at same
    split at same
    next =>
      cases same
      exact inside
    next => exact keeps.known other found same
  shared := keeps.shared

theorem write (keeps : session.Keeps ledger) (ref : RegistryRef) (function : Function) :
    (session.setRegistry ref ((session.registryAt ref).add function)).Keeps
      (ledger.write ref function) where
  registries := by
    rw [Session.setRegistry, keeps.registryAt_eq, ← Registry.ofAdditions_concat, keeps.registries,
      Ledger.write, List.map_set]
  named := keeps.named
  known name found same := by
    rw [Ledger.write, List.length_set]
    exact keeps.known name found same
  shared := by
    rw [Ledger.write, List.length_set]
    exact keeps.shared

theorem registerAt (keeps : session.Keeps ledger) {ref : RegistryRef} {function : Function}
    {result : Session × Answer} (done : session.registerAt ref function = .ok result) :
    result.1.Keeps (ledger.register ref function) := by
  obtain ⟨registry, registered, same⟩ := exists_of_bind_ok done
  cases same
  unfold Registry.register at registered
  rw [Ledger.register]
  split at registered
  next => cases registered
  next nonempty =>
    cases registered
    rw [if_neg nonempty]
    exact keeps.write ref function

/-- The registries behind an action are those behind its line in the ledger. -/
theorem act (keeps : session.Keeps ledger) {action : Action} {result : Session × Answer}
    (done : session.act action = .ok result) :
    result.1.Keeps (ledger.record (.act action)) := by
  cases action with
  | registry origin name =>
    cases origin with
    | empty =>
      cases done
      exact keeps.addRegistry name []
    | builtin =>
      cases done
      exact keeps.addRegistry name builtins
    | shared =>
      cases done
      exact keeps.nameRegistry name keeps.shared
  | copy original name =>
    obtain ⟨⟨ref, registry⟩, found, same⟩ := exists_of_bind_ok done
    cases same
    obtain ⟨known, content⟩ := lookup_of_registryNamed found
    simp only at known content
    rw [content, keeps.registryAt_eq, Ledger.record, ← keeps.named, known]
    exact keeps.addRegistry name (ledger.page ref)
  | register name function =>
    obtain ⟨⟨ref, registry⟩, found, registered⟩ := exists_of_bind_ok done
    rw [Ledger.record, ← keeps.named, (lookup_of_registryNamed found).1]
    exact keeps.registerAt registered
  | registerShared function => exact keeps.registerAt done
  | add name function =>
    obtain ⟨⟨ref, registry⟩, found, same⟩ := exists_of_bind_ok done
    cases same
    obtain ⟨known, content⟩ := lookup_of_registryNamed found
    simp only at known content
    rw [content, Ledger.record, ← keeps.named, known]
    exact keeps.write ref function
  -- Everything else leaves the registries and their names alone.
  | get | names | lookup | parse | source | start =>
    obtain ⟨_, -, same⟩ := exists_of_bind_ok done
    cases same
    exact keeps.of_same rfl rfl
  | contains name key =>
    obtain ⟨⟨ref, registry⟩, -, same⟩ := exists_of_bind_ok done
    cases key <;> cases same <;> exact keeps
  | invoke name key arguments =>
    obtain ⟨⟨ref, registry⟩, -, called⟩ := exists_of_bind_ok done
    simp only at called
    split at called
    next => cases called
    next =>
      split at called <;> cases called
      exact keeps
  | evaluator registry options name =>
    cases registry with
    | none =>
      cases done
      exact keeps.of_same rfl rfl
    | some registry =>
      obtain ⟨ref, -, same⟩ := exists_of_bind_ok done
      cases same
      exact keeps.of_same rfl rfl
  | line evaluator template index source =>
    obtain ⟨ref, -, done⟩ := exists_of_bind_ok done
    obtain ⟨tree, -, done⟩ := exists_of_bind_ok done
    obtain ⟨values, -, done⟩ := exists_of_bind_ok done
    split at done
    next => cases done
    next =>
      obtain ⟨text, -, same⟩ := exists_of_bind_ok done
      cases same
      exact keeps

end Keeps

variable {session : Session} {ledger : Ledger}

/-- What fails is not in the ledger. -/
theorem Keeps.record_of_error (keeps : session.Keeps ledger) {action : Action} {failure : Failure}
    (failed : session.act action = .error failure) : ledger.record (.act action) = ledger := by
  cases action with
  | registry origin name => cases origin <;> cases failed
  | copy original name =>
    cases found : session.registryNamed original with
    | error other => rw [Ledger.record, ← keeps.named, lookup_of_registryNamed_error found]
    | ok registry =>
      rw [Session.act, found] at failed
      cases failed
  | add name function =>
    cases found : session.registryNamed name with
    | error other => rw [Ledger.record, ← keeps.named, lookup_of_registryNamed_error found]
    | ok registry =>
      rw [Session.act, found] at failed
      cases failed
  | register name function =>
    cases found : session.registryNamed name with
    | error other => rw [Ledger.record, ← keeps.named, lookup_of_registryNamed_error found]
    | ok registry =>
      rw [Session.act, found] at failed
      rw [Ledger.record, ← keeps.named, (lookup_of_registryNamed found).1]
      exact register_of_error failed
  | registerShared function => exact register_of_error failed
  | _ => rfl

/-- One step keeps the registries as the ledger tells. -/
theorem keeps_perform (keeps : session.Keeps ledger) (step : Step) :
    (session.perform step).1.Keeps (ledger.record step) := by
  cases step with
  | next name =>
    rw [perform]
    cases known : session.iterators.lookup name with
    | none =>
      rw [advance_unknown known]
      exact keeps
    | some iterator =>
      rw [advance_eq known]
      exact keeps.of_same rfl rfl
  | act action =>
    rw [perform]
    cases done : session.act action with
    | ok result => exact keeps.act done
    | error failure =>
      rw [keeps.record_of_error done]
      exact keeps

theorem keeps_after (keeps : session.Keeps ledger) (steps : List Step) :
    (session.after steps).Keeps (steps.foldl Ledger.record ledger) := by
  induction steps generalizing session ledger with
  | nil => exact keeps
  | cons step rest ih => exact ih (keeps_perform keeps step)

/-- What is observed of the registries of a session, given what was done to them. None sees what is done
with another one, and what is refused is not seen at all. -/
structure Reflects (session : Session) (ledger : Ledger) : Prop where
  registries : List.Forall₂ Registry.Reflects session.registries ledger.pages
  named : ∀ name, session.registryNames.lookup name = ledger.ref? name
  known : ∀ name ref, ledger.ref? name = some ref → ref < ledger.pages.length
  apart : ∀ step ref, ref < ledger.pages.length → ledger.target? step ≠ some ref →
    (session.perform step).1.registries[ref]? = session.registries[ref]?
  refused : ∀ function, function.name = "" → ∀ name, ledger.ref? name ≠ none →
    session.perform (.act (.register name function)) = (session, .error .emptyFunctionName)
  refusedShared : ∀ function, function.name = "" →
    session.perform (.act (.registerShared function)) = (session, .error .emptyFunctionName)

theorem registerAt_of_empty (session : Session) (ref : RegistryRef) {function : Function}
    (empty : function.name = "") :
    session.registerAt ref function = .error .emptyFunctionName := by
  rw [registerAt, Registry.register, if_pos empty]
  rfl

theorem Keeps.reflects (keeps : session.Keeps ledger) : session.Reflects ledger where
  registries := by
    rw [keeps.registries, List.forall₂_map_left_iff, List.forall₂_same]
    exact fun additions _ => Registry.reflects_ofAdditions additions
  named := keeps.named
  known := keeps.known
  apart step ref known other := by
    rw [(keeps_perform keeps step).registries, keeps.registries, List.getElem?_map,
      List.getElem?_map, ledger.pages_record step known other]
  refused function empty name known := by
    obtain ⟨ref, known⟩ := Option.ne_none_iff_exists'.mp known
    have found : session.registryNamed name = .ok (ref, session.registryAt ref) := by
      rw [registryNamed, Session.named, keeps.named, known]
      rfl
    have failed : session.act (.register name function) = .error .emptyFunctionName := by
      rw [Session.act, found]
      exact session.registerAt_of_empty ref empty
    rw [perform, failed]
  refusedShared function empty := by
    have failed : session.act (.registerShared function) = .error .emptyFunctionName :=
      session.registerAt_of_empty sharedRegistry empty
    rw [perform, failed]

/-- After any steps, each registry shows the functions added to it, and to its original before it was
copied, each name as it was added last and where it was added first. -/
theorem reflects_after (steps : List Step) :
    (start.after steps).Reflects (steps.foldl Ledger.record .start) :=
  (keeps_after keeps_start steps).reflects

/-- A copy and its original go on apart. -/
example :
    let shout : Function := ⟨"STRASSE", [], Builtin.plain Text.upper, fun _ _ => .ok .null⟩
    let steps : List Step :=
      [.act (.registry .empty "first"), .act (.add "first" { shout with name := "straße" }),
        .act (.add "first" { shout with name := "trim" }), .act (.copy "first" "second"),
        .act (.register "second" shout), .act (.register "second" { shout with name := "" }),
        .act (.copy "second" "third"), .act (.add "first" { shout with name := "" })]
    ((start.after steps).registries.drop 1).map NameTable.names =
      [["straße", "trim", ""], ["STRASSE", "trim"], ["STRASSE", "trim"]] := by
  decide +kernel

end Session

end Stencil
