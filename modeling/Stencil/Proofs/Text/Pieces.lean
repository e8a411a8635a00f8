import Mathlib.Data.List.DropRight
import Mathlib.Data.List.Infix
import Stencil.Text.Blank
import Stencil.Text.Search

/-! The pieces of a text between the occurrences of a separator. Said without the search for them, each
piece ends where the separator stands for the first time, and the last one where it does not stand any
more. Pieces are joined again by what takes the separator's place, and trimmed they are parts of
themselves, so that no separator arises. -/

namespace Stencil.Text

/-- Behind these characters the separator stands for the first time, also where it overlaps them. -/
def StandsFirst (separator before : List Char) : Prop :=
  ∀ front back, before ++ separator = front ++ (separator ++ back) → back = []

/-- The pieces of a text between the leftmost occurrences of a separator that do not overlap. -/
inductive Pieces (separator : List Char) : List Char → List (List Char) → Prop where
  | last {piece : List Char} (absent : ¬separator <:+: piece) : Pieces separator piece [piece]
  | cons {piece rest : List Char} {pieces : List (List Char)} (first : StandsFirst separator piece)
      (others : Pieces separator rest pieces) :
      Pieces separator (piece ++ (separator ++ rest)) (piece :: pieces)

/-- No blank stands at either end. -/
structure IsTrimmed (letters : List Char) : Prop where
  front : ∀ c ∈ letters.head?, isBlank c = false
  back : ∀ c ∈ letters.getLast?, isBlank c = false

theorem isTrimmed_iff {letters : List Char} : IsTrimmed letters ↔
    letters.head?.all (!isBlank ·) = true ∧ letters.getLast?.all (!isBlank ·) = true := by
  simp only [Option.all_eq_true, Bool.not_eq_true']
  exact ⟨fun ⟨front, back⟩ => ⟨front, back⟩, fun ⟨front, back⟩ => ⟨front, back⟩⟩

instance (letters : List Char) : Decidable (IsTrimmed letters) :=
  decidable_of_iff' _ isTrimmed_iff

/-! ### Search from the left -/

section

variable {separator : List Char}

theorem cutFrom_eq_cut (separator : List Char) (skip : Nat) (text : List Char) :
    cutFrom separator skip text = cut separator (text.drop skip) := by
  fun_induction cutFrom separator skip text with
  | case1 skip => rw [List.drop_nil]; rfl
  | case2 skip c rest ih => exact ih
  | case3 c rest occurrence => rw [cut, List.drop_zero, cutFrom, if_pos occurrence]
  | case4 c rest plain => rw [cut, List.drop_zero, cutFrom, if_neg plain]

theorem cut_append (present : separator ≠ []) (rest : List Char) :
    cut separator (separator ++ rest) = [] :: cut separator rest := by
  obtain ⟨c, more, rfl⟩ := List.exists_cons_of_ne_nil present
  have occurrence : (c :: more).isPrefixOf (c :: (more ++ rest)) = true :=
    List.isPrefixOf_iff_prefix.mpr (List.prefix_append (c :: more) rest)
  rw [cut, List.cons_append, cutFrom, if_pos occurrence, cutFrom_eq_cut, List.length_cons,
    Nat.add_sub_cancel, List.drop_left]

theorem cut_cons {c : Char} {rest : List Char} (plain : ¬separator <+: c :: rest) :
    cut separator (c :: rest) = consFirst c (cut separator rest) := by
  rw [cut, cutFrom, if_neg (plain ∘ List.isPrefixOf_iff_prefix.mp), cut]

theorem intercalate_consFirst (glue : List Char) (c : Char) {pieces : List (List Char)}
    (some : pieces ≠ []) : glue.intercalate (consFirst c pieces) = c :: glue.intercalate pieces := by
  obtain ⟨piece, others, rfl⟩ := List.exists_cons_of_ne_nil some
  cases others with
  | nil => simp [consFirst]
  | cons next more => simp [consFirst]

theorem intercalate_cutFrom (separator replacement : List Char) (skip : Nat) (text : List Char) :
    replacement.intercalate (cutFrom separator skip text) =
      substituteFrom separator replacement skip text := by
  fun_induction cutFrom separator skip text with
  | case1 skip => cases skip <;> rfl
  | case2 skip c rest ih => exact ih
  | case3 c rest occurrence ih =>
    rw [substituteFrom, if_pos occurrence, ← ih,
      List.intercalate_cons_of_ne_nil (cutFrom_ne_nil separator _ rest), List.nil_append]
  | case4 c rest plain ih =>
    rw [substituteFrom, if_neg plain, ← ih,
      intercalate_consFirst replacement c (cutFrom_ne_nil separator 0 rest)]

/-- Joined by another text the pieces are the text with that one in the place of the separator. -/
theorem intercalate_cut (separator replacement text : List Char) :
    replacement.intercalate (cut separator text) = substitute separator replacement text :=
  intercalate_cutFrom separator replacement 0 text

end

/-! ### The pieces -/

section

variable {separator : List Char} {text piece rest : List Char} {pieces : List (List Char)}

theorem standsFirst_nil (separator : List Char) : StandsFirst separator [] := by
  intro front back same
  have lengths := congrArg List.length same
  simp only [List.nil_append, List.length_append] at lengths
  exact List.eq_nil_of_length_eq_zero (by omega)

theorem StandsFirst.of_cons {c : Char} (first : StandsFirst separator (c :: piece)) :
    StandsFirst separator piece := fun front back same =>
  first (c :: front) back (by rw [List.cons_append, same, List.cons_append])

theorem StandsFirst.absent (present : separator ≠ []) (first : StandsFirst separator piece) :
    ¬separator <:+: piece := by
  rintro ⟨front, back, rfl⟩
  have none : back ++ separator = [] := first front (back ++ separator) (by simp)
  exact present (List.append_eq_nil_iff.mp none).2

/-- No occurrence of the separator begins within a piece. -/
theorem StandsFirst.absent_in_front {c : Char} (first : StandsFirst separator (c :: piece))
    (rest : List Char) : ¬separator <+: c :: (piece ++ (separator ++ rest)) := by
  intro occurrence
  have within : separator <+: c :: piece ++ separator := by
    apply List.prefix_of_prefix_length_le occurrence
    · exact ⟨rest, by simp⟩
    · rw [List.length_append]
      exact Nat.le_add_left _ _
  obtain ⟨back, same⟩ := within
  obtain rfl := first [] back same.symm
  have lengths := congrArg List.length same
  simp only [List.append_nil, List.length_append, List.length_cons] at lengths
  omega

/-- A single character stands first behind characters other than it. -/
theorem standsFirst_singleton {c : Char} (other : c ∉ piece) : StandsFirst [c] piece := by
  intro front back same
  rcases List.eq_nil_or_concat back with none | ⟨behind, last, rfl⟩
  · exact none
  · have apart : piece ++ [c] = front ++ c :: behind ++ [last] := by
      rw [same, List.concat_eq_append, List.singleton_append, List.append_assoc, List.cons_append]
    rw [List.append_inj_left' apart rfl] at other
    exact absurd (List.mem_append_right front List.mem_cons_self) other

theorem cut_of_absent (absent : ¬separator <:+: piece) :
    cut separator piece = [piece] := by
  induction piece with
  | nil => rfl
  | cons c rest ih =>
    obtain ⟨plain, later⟩ := not_or.mp (absent ∘ List.infix_cons_iff.mpr)
    rw [cut_cons plain, ih later]
    rfl

theorem cut_of_standsFirst (present : separator ≠ []) (first : StandsFirst separator piece)
    (rest : List Char) :
    cut separator (piece ++ (separator ++ rest)) = piece :: cut separator rest := by
  induction piece with
  | nil => exact cut_append present rest
  | cons c piece ih =>
    rw [List.cons_append, cut_cons (first.absent_in_front rest), ih first.of_cons]
    rfl

/-- The search finds the pieces. -/
theorem Pieces.cut_eq (cutUp : Pieces separator text pieces) (present : separator ≠ []) :
    cut separator text = pieces := by
  induction cutUp with
  | last absent => exact cut_of_absent absent
  | cons first _ ih => rw [cut_of_standsFirst present first, ih]

/-- A character that begins no occurrence belongs to the first piece. -/
theorem Pieces.consFirst {c : Char} (cutUp : Pieces separator rest pieces)
    (plain : ¬separator <+: c :: rest) : Pieces separator (c :: rest) (consFirst c pieces) := by
  cases cutUp with
  | last absent => exact .last (fun occurs => (List.infix_cons_iff.mp occurs).elim plain absent)
  | @cons piece rest pieces first others =>
    have longer : StandsFirst separator (c :: piece) := by
      intro front back same
      cases front with
      | nil =>
        have occurrence : separator <+: c :: (piece ++ (separator ++ rest)) := by
          refine ⟨back ++ rest, ?_⟩
          rw [← List.append_assoc, ← List.nil_append (separator ++ back), ← same]
          simp
        exact absurd occurrence plain
      | cons d front => exact first front back (List.cons.inj same).2
    exact .cons longer others

theorem pieces_cut (present : separator ≠ []) (text : List Char) :
    Pieces separator text (cut separator text) := by
  by_cases occurrence : separator <+: text
  · obtain ⟨rest, rfl⟩ := occurrence
    have shorter : rest.length < (separator ++ rest).length := by
      rw [List.length_append]
      exact Nat.lt_add_of_pos_left (List.length_pos_of_ne_nil present)
    rw [cut_append present]
    exact .cons (standsFirst_nil separator) (pieces_cut present rest)
  · cases text with
    | nil => exact .last (present ∘ List.infix_nil.mp)
    | cons c rest =>
      rw [cut_cons occurrence]
      exact (pieces_cut present rest).consFirst occurrence
termination_by text.length

theorem pieces_iff (present : separator ≠ []) :
    Pieces separator text pieces ↔ cut separator text = pieces := by
  constructor
  · intro cutUp
    exact cutUp.cut_eq present
  · rintro rfl
    exact pieces_cut present text

theorem Pieces.absent_of_mem (cutUp : Pieces separator text pieces) (present : separator ≠ [])
    (member : piece ∈ pieces) : ¬separator <:+: piece := by
  induction cutUp with
  | last absent =>
    obtain rfl := List.mem_singleton.mp member
    exact absent
  | cons first _ ih =>
    rcases List.mem_cons.mp member with rfl | later
    · exact first.absent present
    · exact ih later

theorem Pieces.ne_nil (cutUp : Pieces separator text pieces) : pieces ≠ [] := by
  cases cutUp <;> exact List.cons_ne_nil _ _

/-! ### Joined pieces -/

/-- Joined by the separator the pieces are the text. -/
theorem Pieces.intercalate_eq (cutUp : Pieces separator text pieces) :
    separator.intercalate pieces = text := by
  induction cutUp with
  | last => exact List.intercalate_singleton
  | cons first others ih => rw [List.intercalate_cons_of_ne_nil others.ne_nil, ih, List.append_assoc]

/-- Texts of which each stands in front of the first separator behind it are the pieces of what they
are joined to. -/
theorem pieces_intercalate (present : separator ≠ []) (some : pieces ≠ [])
    (first : ∀ piece ∈ pieces, StandsFirst separator piece) :
    Pieces separator (separator.intercalate pieces) pieces := by
  induction pieces with
  | nil => exact absurd rfl some
  | cons piece others ih =>
    obtain ⟨here, later⟩ := List.forall_mem_cons.mp first
    cases others with
    | nil =>
      rw [List.intercalate_singleton]
      exact .last (here.absent present)
    | cons next more =>
      have following : next :: more ≠ [] := List.cons_ne_nil next more
      rw [List.intercalate_cons_of_ne_nil following, List.append_assoc]
      exact .cons here (ih following later)

end

/-! ### Trimming -/

theorem trimmed_eq (letters : List Char) :
    trimmed letters = (letters.dropWhile isBlank).rdropWhile isBlank := rfl

theorem trimmed_eq_nil_iff (letters : List Char) :
    trimmed letters = [] ↔ ∀ c ∈ letters, isBlank c = true := by
  rw [trimmed_eq, List.rdropWhile_eq_nil_iff]
  refine ⟨fun rest c member => ?_, fun blank c member =>
    blank c ((List.dropWhile_suffix isBlank).subset member)⟩
  rw [← List.takeWhile_append_dropWhile (p := isBlank) (l := letters)] at member
  rcases List.mem_append.mp member with leading | later
  · exact List.all_eq_true.mp List.all_takeWhile c leading
  · exact rest c later

theorem infix_trimmed (letters : List Char) : trimmed letters <:+: letters := by
  have ends : trimmed letters <+: letters.dropWhile isBlank := List.rdropWhile_prefix isBlank _
  exact ends.isInfix.trans (List.dropWhile_suffix isBlank).isInfix

theorem isTrimmed_trimmed (letters : List Char) : IsTrimmed (trimmed letters) where
  front c first := by
    have ends : trimmed letters <+: letters.dropWhile isBlank := List.rdropWhile_prefix isBlank _
    have leading : (letters.dropWhile isBlank).head? = some c := by
      obtain ⟨rest, same⟩ := ends
      rw [← same, List.head?_append, Option.mem_def.mp first, Option.some_or]
    have plain := List.head?_dropWhile_not isBlank letters
    rw [leading] at plain
    simpa using plain
  back c last := by
    obtain ⟨some, rfl⟩ := List.mem_getLast?_eq_getLast last
    exact Bool.eq_false_iff.mpr (List.rdropWhile_last_not isBlank _ some)

theorem IsTrimmed.trimmed_eq_self {letters : List Char} (trim : IsTrimmed letters) :
    trimmed letters = letters := by
  have leading : letters.dropWhile isBlank = letters := by
    cases letters with
    | nil => rfl
    | cons c rest => exact List.dropWhile_cons_of_neg (by simp [trim.front c rfl])
  rw [trimmed_eq, leading, List.rdropWhile_eq_self_iff]
  intro some
  simp [trim.back _ (List.getLast?_eq_some_getLast some)]

end Stencil.Text
