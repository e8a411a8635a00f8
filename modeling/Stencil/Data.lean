import Stencil.Model.Read

/-! Data that a caller renders a template with. -/

namespace Stencil

/-- A mapping, nothing at all, or a model. -/
inductive Data where
  | mapping (entries : Mapping)
  | absent
  | model (model : Model)

/-- Where the names of a source come from. -/
inductive Origin where
  | keys
  | members
deriving DecidableEq, Repr

namespace Data

/-- A mapping serves by its keys, also where it was passed as a model; anything else serves by
its members. -/
def adapt : Data → Except Failure Source
  | .mapping entries => Source.ofMapping entries
  | .absent => .error .missingValues
  | .model (.value .null) => .error .missingValues
  | .model (.value (.mapping entries)) => Source.ofMapping entries
  | .model self => Source.ofModel self

def adaptedOrigin : Data → Origin
  | .mapping _ => .keys
  | .absent => .keys
  | .model (.value (.mapping _)) => .keys
  | .model _ => .members

/-- As `adapt`, but nothing at all is taken for a missing model. -/
def reported : Data → Except Failure Source
  | .absent => .error .missingModel
  | .model (.value .null) => .error .missingModel
  | data => data.adapt

/-- A mapping serves by its keys, and whatever was passed as a model by its members. -/
def direct : Data → Except Failure Source
  | .mapping entries => Source.ofMapping entries
  | .absent => .error .missingValues
  | .model self => Source.ofModel self

def directOrigin : Data → Origin
  | .mapping _ => .keys
  | .absent => .keys
  | .model _ => .members

end Data

end Stencil
