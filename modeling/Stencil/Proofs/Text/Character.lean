import Stencil.Number.Digits
import Stencil.Text.Blank
import Stencil.Text.Word

/-! Classes of characters that exclude each other, so that the first character of what stands in
a hole tells what it is. -/

namespace Stencil.Text

open Number

theorem exists_range_of_inRanges {code : Nat} {ranges : List (Nat × Nat)}
    (member : inRanges code ranges = true) :
    ∃ range ∈ ranges, range.1 ≤ code ∧ code ≤ range.2 := by
  induction ranges with
  | nil => cases member
  | cons range rest ih =>
    rw [inRanges] at member
    split at member
    · cases member
    · rename_i above
      rcases Bool.or_eq_true_iff.mp member with inside | later
      · exact ⟨range, List.mem_cons_self, Nat.le_of_not_lt above, of_decide_eq_true inside⟩
      · obtain ⟨found, known, bounds⟩ := ih later
        exact ⟨found, List.mem_cons_of_mem _ known, bounds⟩

/-- The code points of one set are tried one by one in the other. -/
theorem contains_eq_of_ranges {first second : CharSet} {value : Bool}
    (all : ∀ range ∈ first.ranges, ∀ code ∈ List.range' range.1 (range.2 + 1 - range.1),
      inRanges code second.ranges = value)
    {c : Char} (member : first.contains c = true) : second.contains c = value := by
  obtain ⟨range, known, lower, upper⟩ := exists_range_of_inRanges member
  exact all range known c.toNat (List.mem_range'_1.mpr ⟨lower, by omega⟩)

theorem isWord_of_isBlank {c : Char} (blank : isBlank c = true) : isWord c = false := by
  have apart : ∀ range ∈ blankCharacters.ranges,
      ∀ code ∈ List.range' range.1 (range.2 + 1 - range.1),
      inRanges code wordCharacters.ranges = false := by decide +kernel
  exact contains_eq_of_ranges apart blank

/-- The ten digits of numbers. -/
theorem contains_of_isDigit {c : Char} (digit : isDigit c = true) :
    CharSet.contains ⟨[(0x30, 0x39)]⟩ c = true := by
  have bounds : 0x30 ≤ c.toNat ∧ c.toNat ≤ 0x39 := by
    simpa [isDigit, Char.le_def, UInt32.le_iff_toNat_le] using digit
  simp [CharSet.contains, inRanges, bounds, Nat.not_lt.mpr bounds.1]

theorem isWord_of_isDigit {c : Char} (digit : isDigit c = true) : isWord c = true := by
  apply contains_eq_of_ranges _ (contains_of_isDigit digit)
  decide

theorem isWordStart_of_isDigit {c : Char} (digit : isDigit c = true) : isWordStart c = false := by
  have decimal : decimalDigits.contains c = true := by
    apply contains_eq_of_ranges _ (contains_of_isDigit digit)
    decide
  rw [isWordStart, decimal, Bool.not_true, Bool.and_false]

theorem isDigit_of_isWordStart {c : Char} (start : isWordStart c = true) : isDigit c = false := by
  cases digit : isDigit c with
  | false => rfl
  | true => rw [isWordStart_of_isDigit digit] at start; cases start

theorem isInlineBlank_of_isWord {c : Char} (word : isWord c = true) : isInlineBlank c = false := by
  cases blank : isBlank c with
  | false => simp [isInlineBlank, blank]
  | true => rw [isWord_of_isBlank blank] at word; cases word

end Stencil.Text
