import Stencil.Proofs.Model.Members

/-! The fields of records. They are those in the table of the first record that is searched, and a record
that says nothing of a name hands on what the last of the classes it extends lists under the name. -/

namespace Stencil

namespace Lineage

/-- All that the classes extend is there with them. -/
def IsClosed (lineage : Lineage) : Prop := ∀ c ∈ lineage, ∀ base ∈ c.bases, base ∈ lineage

/-- Each class extends exactly those in front of it. -/
def IsChain (lineage : Lineage) : Prop := ∀ front c back, lineage = front ++ c :: back → c.bases = front

end Lineage

/-! ### Tables -/

namespace Lineage

variable {lineage : Lineage} {c : ModelClass}

end Lineage

namespace ModelClass

variable {self : ModelClass} {name : String}

end ModelClass

namespace ModelClass

variable {self : ModelClass} {name : String}

end ModelClass

namespace Lineage

variable {lineage : Lineage} {name : String}

namespace IsChain

theorem closed (chain : lineage.IsChain) : lineage.IsClosed := by
  intro c member base listed
  obtain ⟨front, back, rfl⟩ := List.append_of_mem member
  rw [chain front c back rfl] at listed
  exact List.mem_append_left _ listed

theorem chain (bodies : List (ClassKind × List Member)) : (Lineage.chain bodies).IsChain := by
  induction bodies using List.reverseRecOn with
  | nil => simp [IsChain, Lineage.chain]
  | append_singleton bodies body ih =>
    intro front c back split
    rw [Lineage.chain, List.foldl_concat] at split
    rcases List.eq_nil_or_concat' back with rfl | ⟨back, last, rfl⟩
    · obtain ⟨same, single⟩ := List.append_inj' split rfl
      cases single
      exact same
    · rw [← List.cons_append, ← List.append_assoc] at split
      exact ih front c back (List.append_inj' split rfl).1

end IsChain

end Lineage

end Stencil
