import Stencil.Proofs.Model.FieldRule
import Stencil.Proofs.Model.Records

/-! Classes behind and between others that do not mention a name. They declare and show nothing under it, and of
what the most special class decides they have what the others had, or nothing that has to do with the name. -/

namespace Stencil

namespace Lineage

/-- The classes are the base with further ones among them, none of which mentions the name. -/
inductive Extends (name : String) : Lineage → Lineage → Prop where
  | nil : Extends name [] []
  | keep (c : ModelClass) {base line : Lineage} (rest : Extends name base line) :
      Extends name (c :: base) (c :: line)
  | add {c : ModelClass} {base line : Lineage} (silent : c.mentions name = false)
      (rest : Extends name base line) : Extends name base (c :: line)

variable {lineage base line : Lineage} {name : String} {takes : String → String → Prop}

/-! ### Classes that do not mention the name -/

namespace Extends

/-- Classes after all others, as in a class and the bases of it. -/
theorem append (base : Lineage) {derived : Lineage}
    (silent : ∀ c ∈ derived, c.mentions name = false) : Extends name base (base ++ derived) := by
  induction base with
  | nil =>
    induction derived with
    | nil => exact .nil
    | cons c rest ih =>
      rw [List.forall_mem_cons] at silent
      exact .add silent.1 (ih silent.2)
  | cons c rest ih => exact .keep c ih

variable (extended : Extends name base line)

include extended

theorem mem_of_mem {c : ModelClass} (member : c ∈ base) : c ∈ line := by
  induction extended with
  | nil => exact member
  | keep first _ ih =>
    rcases List.mem_cons.mp member with rfl | later
    exacts [List.mem_cons_self, List.mem_cons_of_mem first (ih later)]
  | add _ _ ih => exact List.mem_cons_of_mem _ (ih member)

theorem mem_base_of_mentions {c : ModelClass} (member : c ∈ line) (mentioned : c.mentions name = true) :
    c ∈ base := by
  induction extended with
  | nil => exact member
  | keep first _ ih =>
    rcases List.mem_cons.mp member with rfl | later
    exacts [List.mem_cons_self, List.mem_cons_of_mem first (ih later)]
  | add silent _ ih =>
    rcases List.mem_cons.mp member with rfl | later
    · rw [mentioned] at silent
      cases silent
    · exact ih later

theorem exists_iff {P : ModelClass → Prop} (mentioned : ∀ c, P c → c.mentions name = true) :
    (∃ c ∈ line, P c) ↔ ∃ c ∈ base, P c := by
  constructor
  · rintro ⟨c, member, holds⟩
    exact ⟨c, extended.mem_base_of_mentions member (mentioned c holds), holds⟩
  · rintro ⟨c, member, holds⟩
    exact ⟨c, extended.mem_of_mem member, holds⟩

theorem mem_classLevelNames_iff : name ∈ line.classLevelNames ↔ name ∈ base.classLevelNames := by
  rw [Lineage.mem_classLevelNames_iff, Lineage.mem_classLevelNames_iff]
  exact extended.exists_iff fun c ⟨_, entry, _⟩ => ModelClass.mentions_of_declared entry

section

variable {α : Type} {found : ModelClass → Option α}

end

end Extends

end Lineage

end Stencil
