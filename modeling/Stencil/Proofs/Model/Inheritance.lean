import Stencil.Proofs.Model.Extension
import Stencil.Proofs.Model.Reading

/-! Members that a class inherits. A field is inherited where the rule stays the same, as far as a new record
hands it on, and otherwise only by a schema, which is made of the declarations of all classes. What is more
than a field is always inherited, but for class data where a schema is made of the classes. -/

namespace Stencil

namespace Lineage

variable {lineage base line : Lineage} {name : String} {takes : String → String → Prop}

/-! ### One rule and another -/

namespace Extends

variable (extended : Extends name base line)

include extended

end Extends

/-- A declaration and an attribute. -/
def sizedMembers : List Member := [.field "size" "int" none, .attribute "unit" (.text "m")]

/-- A plain class with them. -/
def sized : List (ClassKind × List Member) := [(.plain, sizedMembers)]

/-- A record made of it, with a field of its own. -/
def scaled : List (ClassKind × List Member) :=
  sized ++ [(.record, [.field "scale" "int" (some (.integer 1))])]

end Lineage

end Stencil
