/-! Sets of characters given by ranges of code points. -/

namespace Stencil.Text

/-- Ascending, disjoint ranges, both ends included. -/
structure CharSet where
  ranges : List (Nat × Nat)

/-- The search stops at the first range that starts above the code point. -/
def inRanges (code : Nat) : List (Nat × Nat) → Bool
  | [] => false
  | (first, last) :: rest =>
    if code < first then false else code ≤ last || inRanges code rest

def CharSet.contains (set : CharSet) (c : Char) : Bool := inRanges c.toNat set.ranges

end Stencil.Text
