import Stencil.Text.Case

/-! Characters that a case map sets apart: they are their own images, and the image of no other character
starts with them. The underscore is one for folding, so that names keep an underscore in front, and get
none, when they are folded. -/

namespace Stencil.Text

namespace CaseMap

/-- No entry of the table takes the character away, leads to it, or leads to nothing. -/
def setsApart (table : CaseMap) (mark : Char) : Bool :=
  (table.expansions.all fun entry =>
    entry.1 != mark.toNat && entry.2.head?.any fun code => code != mark.toNat) &&
  table.runs.all fun run =>
    !run.covers mark.toNat && !run.covers (mark.toNat - run.shift).toNat

/-- Numbers that are no code points stand for the null character. -/
theorem eq_toNat_of_ofNat {code : Nat} {mark : Char} (visible : 0 < mark.toNat)
    (same : Char.ofNat code = mark) : code = mark.toNat := by
  by_cases valid : code.isValidChar
  · rw [← same, Char.ofNat, dif_pos valid]
    rfl
  · rw [Char.ofNat, dif_neg valid] at same
    rw [← same] at visible
    exact absurd visible (by decide)

variable {table : CaseMap} {mark : Char}

theorem of_setsApart (apart : table.setsApart mark = true) :
    (∀ entry ∈ table.expansions, entry.1 ≠ mark.toNat ∧
      ∃ code rest, entry.2 = code :: rest ∧ code ≠ mark.toNat) ∧
    ∀ run ∈ table.runs, run.covers mark.toNat = false ∧
      run.covers (mark.toNat - run.shift).toNat = false := by
  simp only [setsApart, Bool.and_eq_true, List.all_eq_true, bne_iff_ne, ne_eq,
    Bool.not_eq_true', Option.any_eq_true] at apart
  refine ⟨fun entry member => ?_, apart.2⟩
  obtain ⟨other, code, first, different⟩ := apart.1 entry member
  obtain ⟨rest, codes⟩ := List.head?_eq_some_iff.mp first
  exact ⟨other, code, rest, codes, different⟩

/-- Every image starts with a character, and with one that is set apart only if it is the image of that. -/
theorem exists_image_eq_cons (apart : table.setsApart mark = true) (visible : 0 < mark.toNat)
    (c : Char) : ∃ first rest, table.image c = first :: rest ∧ (first = mark ↔ c = mark) := by
  obtain ⟨expansions, runs⟩ := of_setsApart apart
  unfold image
  cases expanded : table.expansions.lookup c.toNat with
  | some codes =>
    obtain ⟨front, back, split, -⟩ := List.lookup_eq_some_iff.mp expanded
    have member : (c.toNat, codes) ∈ table.expansions := by simp [split]
    obtain ⟨other, code, rest, rfl, different⟩ := expansions _ member
    refine ⟨Char.ofNat code, rest.map Char.ofNat, rfl, iff_of_false ?_ ?_⟩
    · exact fun same => different (eq_toNat_of_ofNat visible same)
    · rintro rfl
      exact other rfl
  | none =>
    cases covered : table.runs.find? (·.covers c.toNat) with
    | none => exact ⟨c, [], rfl, Iff.rfl⟩
    | some run =>
      obtain ⟨own, target⟩ := runs run (List.mem_of_find?_eq_some covered)
      have covers := List.find?_some covered
      refine ⟨_, [], rfl, iff_of_false (fun same => ?_) ?_⟩
      · have code : (c.toNat + run.shift).toNat = mark.toNat := eq_toNat_of_ofNat visible same
        have back : (mark.toNat - run.shift).toNat = c.toNat := by omega
        rw [back, covers] at target
        cases target
      · rintro rfl
        rw [own] at covers
        cases covers

end CaseMap

theorem setsApart_underscore : folding.setsApart '_' = true := by decide +kernel

theorem head?_fold_eq_underscore_iff (text : String) :
    (fold text).toList.head? = some '_' ↔ text.toList.head? = some '_' := by
  rw [fold, String.toList_ofList]
  cases text.toList with
  | nil => rfl
  | cons c rest =>
    obtain ⟨first, others, image, same⟩ :=
      CaseMap.exists_image_eq_cons setsApart_underscore (by decide) c
    rw [List.flatMap_cons, image, List.cons_append, List.head?_cons, List.head?_cons,
      Option.some_inj, Option.some_inj, same]

end Stencil.Text
