import Mathlib.Data.List.Induction
import Stencil.Model.Schema
import Stencil.Proofs.Model.Members

/-! How members come about. The fields of classes are told by one rule for all of them, and those of a schema by
its library. What else a class defines is shown whatever the rule is. -/

namespace Stencil

namespace Lineage

/-- The name is more than a field of the classes: a slot, a property, or class data if no schema is made of
them. -/
inductive Shows (lineage : Lineage) (structured : Bool) (name : String) : Prop where
  | slot {c : ModelClass} (member : c ∈ lineage) (listed : name ∈ c.slotNames)
  | property {c : ModelClass} (member : c ∈ lineage) {getter : Getter}
      (bound : (name, .property getter) ∈ c.bindings)
  | data (other : structured = false) {c : ModelClass} (member : c ∈ lineage) {value : Value}
      (bound : (name, .value value) ∈ c.bindings) (objectLevel : name ∉ lineage.classLevelNames)

/-- What classes make of a name whose fields are told in another way: what they show besides their fields,
and what a schema takes of their declarations. -/
inductive Keeps (takes : String → String → Prop) (lineage : Lineage) (structured : Bool)
    (name : String) : Prop where
  | shown (shows : lineage.Shows structured name)
  | declared (schema : structured = true) {typeText : String}
      (entry : (name, typeText) ∈ Schema.declarations lineage) (taken : takes name typeText)

variable {lineage base line : Lineage} {name : String} {takes : String → String → Prop}

/-! ### The rule of classes -/

end Lineage

end Stencil
