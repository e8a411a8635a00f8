import Stencil.Data
import Stencil.Entries
import Stencil.Function.Builtin
import Stencil.Node.Parse
import Stencil.Evaluate

/-! Sessions: registries that change while templates are rendered line by line. An evaluator
refers to a registry, and a line iterator sees the functions that the registry holds at the
moment of each line. -/

namespace Stencil

/-- Registries are referred to by their place in the session. -/
abbrev RegistryRef := Nat

/-- The registry that evaluators use when they are given none. -/
def sharedRegistry : RegistryRef := 0

structure EvaluatorRef where
  registry : RegistryRef
  options : Options

/-- The lines of a template that are still to be rendered, with all that they need. -/
structure LineIterator where
  evaluator : EvaluatorRef
  source : Source
  pending : List Line

/-- The state of a session: its registries, the shared one first, and named objects. -/
structure Session where
  registries : List Registry
  registryNames : List (String × RegistryRef)
  templates : List (String × Template)
  evaluators : List (String × EvaluatorRef)
  sources : List (String × Source)
  iterators : List (String × LineIterator)

def Session.start : Session := ⟨[.builtin], [], [], [], [], []⟩

/-- What a line iterator takes its values from. -/
inductive Supply where
  | source (name : String)
  | data (data : Data)

inductive RegistryOrigin where
  | empty
  | builtin
  | shared

/-- What a session can be asked for, but for the next line of an iterator. -/
inductive Action where
  | parse (text name : String)
  | registry (origin : RegistryOrigin) (name : String)
  | copy (registry name : String)
  | register (registry : String) (function : Function)
  | registerShared (function : Function)
  | add (registry : String) (function : Function)
  | get (registry name : String)
  | names (registry : String)
  | contains (registry : String) (name : Value)
  | invoke (registry name : String) (arguments : List Value)
  | evaluator (registry : Option String) (options : Options) (name : String)
  | source (data : Data) (name : String)
  | lookup (source name : String)
  | start (template : Option String) (evaluator : String) (supply : Supply) (name : String)
  | line (evaluator template : String) (index : Nat) (source : String)

inductive Step where
  | act (action : Action)
  | next (iterator : String)

inductive Answer where
  | lineCount (count : Nat)
  | size (count : Nat)
  | function (function : Function)
  | found (function : Option Function)
  | names (names : List String)
  | functions (names : List String)
  | sourceNames (names : List String)
  | flag (value : Bool)
  | value (value : Value)
  | looked (value : Option Value)
  | started
  | line (text : String)
  | finished

namespace Session

/-- A named object, which must be there. -/
def named {α : Type} (objects : List (String × α)) (name : String) : Except Failure α :=
  match objects.lookup name with
  | some value => .ok value
  | none => .error (.unknownObject name)

/-- The functions that a registry holds now. -/
def registryAt (session : Session) (ref : RegistryRef) : Registry :=
  session.registries.getD ref .empty

def registryNamed (session : Session) (name : String) :
    Except Failure (RegistryRef × Registry) := do
  let ref ← named session.registryNames name
  return (ref, session.registryAt ref)

/-- Names a registry that the session holds already. -/
def nameRegistry (session : Session) (name : String) (ref : RegistryRef) : Session :=
  { session with registryNames := setEntry name ref session.registryNames }

/-- Adds a registry that nothing else refers to. -/
def addRegistry (session : Session) (name : String) (registry : Registry) : Session :=
  { session with
    registries := session.registries ++ [registry]
    registryNames := setEntry name session.registries.length session.registryNames }

def setRegistry (session : Session) (ref : RegistryRef) (registry : Registry) : Session :=
  { session with registries := session.registries.set ref registry }

/-- The evaluator with the functions of the moment. -/
def evaluatorNow (session : Session) (evaluator : EvaluatorRef) : Evaluator :=
  ⟨session.registryAt evaluator.registry, evaluator.options⟩

/-- Renders the next line. A failure is the end of the lines. -/
def nextLine (session : Session) (iterator : LineIterator) :
    LineIterator × Except Failure (Option String) :=
  match iterator.pending with
  | [] => (iterator, .ok none)
  | line :: rest =>
    match (session.evaluatorNow iterator.evaluator).renderLine iterator.source line with
    | .ok text => ({ iterator with pending := rest }, .ok (some text))
    | .error failure => ({ iterator with pending := [] }, .error failure)

def supplied (session : Session) : Supply → Except Failure Source
  | .source name => named session.sources name
  | .data data => data.direct

/-- A new iterator. The source is looked at before the template. -/
def iterator (session : Session) (template : Option String) (evaluator : String)
    (supply : Supply) : Except Failure LineIterator := do
  let evaluator ← named session.evaluators evaluator
  let source ← session.supplied supply
  match template with
  | none => .error .missingTemplate
  | some name =>
    let template ← named session.templates name
    return ⟨evaluator, source, template.lines⟩

def registerAt (session : Session) (ref : RegistryRef) (function : Function) :
    Except Failure (Session × Answer) := do
  let registry ← (session.registryAt ref).register function
  return (session.setRegistry ref registry, .function function)

/-- Does what is asked for, unless it fails. -/
def act (session : Session) : Action → Except Failure (Session × Answer)
  | .parse text name => do
    let template ← Stencil.parse text
    return ({ session with templates := setEntry name template session.templates },
      .lineCount template.lines.length)
  | .registry .empty name => .ok (session.addRegistry name .empty, .size 0)
  | .registry .builtin name =>
    .ok (session.addRegistry name .builtin, .size Registry.builtin.size)
  | .registry .shared name =>
    .ok (session.nameRegistry name sharedRegistry, .size (session.registryAt sharedRegistry).size)
  | .copy registry name => do
    let (_, registry) ← session.registryNamed registry
    return (session.addRegistry name registry, .size registry.size)
  | .register registry function => do
    let (ref, _) ← session.registryNamed registry
    session.registerAt ref function
  | .registerShared function => session.registerAt sharedRegistry function
  | .add registry function => do
    let (ref, registry) ← session.registryNamed registry
    return (session.setRegistry ref (registry.add function), .function function)
  | .get registry name => do
    let (_, registry) ← session.registryNamed registry
    return (session, .found (registry.find? name))
  | .names registry => do
    let (_, registry) ← session.registryNamed registry
    return (session, .names registry.names)
  | .contains registry name => do
    let (_, registry) ← session.registryNamed registry
    match name with
    | .text name => return (session, .flag (registry.contains name))
    | _ => return (session, .flag false)
  | .invoke registry name arguments => do
    let (_, registry) ← session.registryNamed registry
    match registry.find? name with
    | none => .error (.unknownObject name)
    | some function =>
      match function.invoke arguments with
      | .ok value => return (session, .value value)
      | .error error => .error (.call error)
  | .evaluator registry options name => do
    let ref ←
      match registry with
      | none => pure sharedRegistry
      | some registry => named session.registryNames registry
    return ({ session with evaluators := setEntry name ⟨ref, options⟩ session.evaluators },
      .functions (session.registryAt ref).names)
  | .source data name => do
    let source ← data.direct
    return ({ session with sources := setEntry name source session.sources },
      .sourceNames source.names)
  | .lookup source name => do
    let source ← named session.sources source
    return (session, .looked (source.find? name))
  | .start template evaluator supply name => do
    let iterator ← session.iterator template evaluator supply
    return ({ session with iterators := setEntry name iterator session.iterators }, .started)
  | .line evaluator template index source => do
    let evaluator ← named session.evaluators evaluator
    let template ← named session.templates template
    let source ← named session.sources source
    match template.lines[index]? with
    | none => .error (.unknownObject (naturalText index))
    | some line =>
      let text ← (session.evaluatorNow evaluator).renderLine source line
      return (session, .line text)

/-- Renders the next line of a named iterator, which ends its lines if it fails. -/
def advance (session : Session) (name : String) : Session × Except Failure Answer :=
  match session.iterators.lookup name with
  | none => (session, .error (.unknownObject name))
  | some iterator =>
    let (iterator, outcome) := session.nextLine iterator
    let session := { session with iterators := setEntry name iterator session.iterators }
    match outcome with
    | .ok (some text) => (session, .ok (.line text))
    | .ok none => (session, .ok .finished)
    | .error failure => (session, .error failure)

def perform (session : Session) (step : Step) : Session × Except Failure Answer :=
  match step with
  | .next name => session.advance name
  | .act action =>
    match session.act action with
    | .ok (next, answer) => (next, .ok answer)
    | .error failure => (session, .error failure)

/-- The answers to steps taken one after the other. A step that fails changes nothing, but for
an iterator that then is at its end. -/
def run (session : Session) : List Step → List (Except Failure Answer)
  | [] => []
  | step :: rest =>
    let (next, answer) := session.perform step
    answer :: run next rest

end Session

end Stencil
