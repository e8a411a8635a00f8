import Stencil.Proofs.Position.Behind
import Stencil.Proofs.Token.Spelling
import Stencil.Text.Lines

/-! The line of a text around a place. Lines end with a line feed or with a carriage return and a line
feed, while places count line feeds only; the two agree wherever a place is not inside a line end. -/

namespace Stencil

open Text

/-- A line as it stands in a text behind some characters, without its line end. The line end takes
the carriage return in front of its line feed. -/
def IsLineAt (text front line : List Char) : Prop :=
  ∃ after, text = front ++ (line ++ after) ∧ (front = [] ∨ front.getLast? = some '\n') ∧
    '\n' ∉ line ∧
    (after = [] ∨ (after.head? = some '\n' ∧ line.getLast? ≠ some '\r') ∨ ['\r', '\n'] <+: after)

/-! ### The last line -/

theorem lastLine_eq_self {text : List Char} (unbroken : '\n' ∉ text) : lastLine text = text := by
  apply List.rtakeWhile_eq_self_iff.mpr
  intro c member
  have different : c ≠ '\n' := by
    rintro rfl
    exact unbroken member
  simpa using different

theorem lineFeed_not_mem_lastLine (text : List Char) : '\n' ∉ lastLine text := by
  intro member
  have plain := List.mem_rtakeWhile_imp member
  revert plain
  decide

/-- A character in front matters only if no line feed comes behind it. -/
theorem lastLine_cons_of_mem {text : List Char} (broken : '\n' ∈ text) (c : Char) :
    lastLine (c :: text) = lastLine text := by
  induction text using List.reverseRecOn with
  | nil => cases broken
  | append_singleton front last ih =>
    rw [← List.cons_append]
    by_cases lineFeed : last = '\n'
    · subst lineFeed
      rw [lastLine_concat_lineFeed, lastLine_concat_lineFeed]
    · have earlier : '\n' ∈ front := by
        rcases List.mem_append.mp broken with member | same
        · exact member
        · exact absurd (List.mem_singleton.mp same).symm lineFeed
      rw [lastLine_concat lineFeed, lastLine_concat lineFeed, ih earlier]

theorem lastLine_cons_lineFeed (text : List Char) : lastLine ('\n' :: text) = lastLine text := by
  by_cases broken : '\n' ∈ text
  · exact lastLine_cons_of_mem broken '\n'
  · induction text using List.reverseRecOn with
    | nil => rfl
    | append_singleton front last ih =>
      obtain ⟨earlier, different⟩ := not_or.mp (fun found => broken (List.mem_append.mpr found))
      have plain : last ≠ '\n' := fun same => different (List.mem_singleton.mpr same.symm)
      rw [← List.cons_append, lastLine_concat plain, lastLine_concat plain, ih earlier]

/-- In front of the last line nothing stands, or a line feed does. -/
theorem exists_lastLine (text : List Char) :
    ∃ front, text = front ++ lastLine text ∧ (front = [] ∨ front.getLast? = some '\n') := by
  induction text using List.reverseRecOn with
  | nil => exact ⟨[], rfl, .inl rfl⟩
  | append_singleton text c ih =>
    obtain ⟨front, cut, begins⟩ := ih
    by_cases broken : c = '\n'
    · subst broken
      rw [lastLine_concat_lineFeed]
      exact ⟨text ++ ['\n'], (List.append_nil _).symm, .inr List.getLast?_concat⟩
    · refine ⟨front, ?_, begins⟩
      rw [lastLine_concat broken, ← List.append_assoc, ← cut]

/-! ### The lines of a text -/

theorem lines_cons_plain {c : Char} {rest : List Char} (plain : c ≠ '\n')
    (lone : ¬(c = '\r' ∧ rest.head? = some '\n')) {line : List Char} {more : List (List Char)}
    (found : lines rest = line :: more) : lines (c :: rest) = (c :: line) :: more := by
  rw [lines]
  · simp only [found]
  · rintro others rfl rfl
    exact lone ⟨rfl, rfl⟩
  · exact plain

/-- The first line of a text reaches up to the first line end. -/
theorem exists_lines_cons (text : List Char) : ∃ line more, lines text = line :: more ∧
    IsLineAt text [] line := by
  induction text with
  | nil => exact ⟨[], [], rfl, [], rfl, .inl rfl, by simp, .inl rfl⟩
  | cons c rest ih =>
    by_cases lineFeed : c = '\n'
    · subst lineFeed
      exact ⟨[], lines rest, rfl, '\n' :: rest, rfl, .inl rfl, by simp, .inr (.inl ⟨rfl, by simp⟩)⟩
    by_cases broken : c = '\r' ∧ rest.head? = some '\n'
    · obtain ⟨rfl, next⟩ := broken
      obtain ⟨others, rfl⟩ := List.head?_eq_some_iff.mp next
      exact ⟨[], lines others, rfl, _, rfl, .inl rfl, by simp, .inr (.inr ⟨others, rfl⟩)⟩
    obtain ⟨line, more, found, after, rfl, -, unbroken, ends⟩ := ih
    refine ⟨c :: line, more, lines_cons_plain lineFeed broken found, after, rfl, .inl rfl, ?_, ?_⟩
    · simp only [List.mem_cons, not_or]
      exact ⟨Ne.symm lineFeed, unbroken⟩
    · rcases ends with none | ⟨next, kept⟩ | returned
      · exact .inl none
      · refine .inr (.inl ⟨next, ?_⟩)
        cases line with
        | nil =>
          intro last
          exact broken ⟨Option.some.inj last, next⟩
        | cons d others => rwa [List.getLast?_cons_cons]
      · exact .inr (.inr returned)

/-- Behind as many line feeds, the line is the last one before the place and goes on with the first
one behind it. -/
theorem lines_getElem_count {before after line : List Char} {more : List (List Char)}
    (apart : ¬Fuses before after) (first : lines after = line :: more) :
    (lines (before ++ after))[before.count '\n']? = some (lastLine before ++ line) := by
  induction before with
  | nil => simp [first]
  | cons c rest ih =>
    have found := ih (not_fuses_of_cons apart)
    rw [List.cons_append]
    by_cases lineFeed : c = '\n'
    · subst lineFeed
      rw [List.count_cons_self, lastLine_cons_lineFeed]
      exact found
    rw [List.count_cons_of_ne lineFeed]
    by_cases broken : c = '\r' ∧ (rest ++ after).head? = some '\n'
    · obtain ⟨rfl, next⟩ := broken
      cases rest with
      | nil => exact absurd ⟨rfl, next⟩ apart
      | cons d others =>
        obtain rfl : d = '\n' := Option.some.inj next
        have skipped : lines ('\r' :: ('\n' :: others ++ after)) =
            lines ('\n' :: others ++ after) := by simp [lines]
        rw [skipped, lastLine_cons_of_mem List.mem_cons_self]
        exact found
    obtain ⟨head, others, whole, -⟩ := exists_lines_cons (rest ++ after)
    rw [lines_cons_plain lineFeed broken whole]
    rw [whole] at found
    by_cases among : '\n' ∈ rest
    · obtain ⟨count, positive⟩ := Nat.exists_eq_add_of_lt (List.count_pos_iff.mpr among)
      rw [Nat.zero_add] at positive
      rw [lastLine_cons_of_mem among, positive, List.getElem?_cons_succ]
      rwa [positive, List.getElem?_cons_succ] at found
    · have none : rest.count '\n' = 0 := List.count_eq_zero.mpr among
      have unbroken : '\n' ∉ c :: rest := by
        simp only [List.mem_cons, not_or]
        exact ⟨Ne.symm lineFeed, among⟩
      rw [none, List.getElem?_cons_zero, lastLine_eq_self among] at found
      rw [none, List.getElem?_cons_zero, lastLine_eq_self unbroken, Option.some.inj found,
        List.cons_append]

/-- The line around a place that is not inside a line end. -/
theorem isLineAt_append {before after line : List Char} (apart : ¬Fuses before after)
    (first : IsLineAt after [] line) : ∃ front, before = front ++ lastLine before ∧
      IsLineAt (before ++ after) front (lastLine before ++ line) := by
  obtain ⟨front, cut, begins⟩ := exists_lastLine before
  obtain ⟨rest, rfl, -, unbroken, ends⟩ := first
  refine ⟨front, cut, rest, ?_, begins, ?_, ?_⟩
  · rw [List.nil_append, ← List.append_assoc, ← List.append_assoc, ← List.append_assoc, ← cut]
  · intro member
    rcases List.mem_append.mp member with earlier | later
    · exact lineFeed_not_mem_lastLine before earlier
    · exact unbroken later
  · rcases ends with none | ⟨next, kept⟩ | returned
    · exact .inl none
    · refine .inr (.inl ⟨next, fun last => ?_⟩)
      by_cases empty : line = []
      · subst empty
        rw [List.append_nil] at last
        have nonempty : lastLine before ≠ [] := by
          intro none
          rw [none] at last
          cases last
        apply apart
        rw [cut]
        exact ⟨by rw [List.getLast?_append_of_ne_nil front nonempty, last], next⟩
      · rw [List.getLast?_append_of_ne_nil _ empty] at last
        exact kept last
    · exact .inr (.inr returned)

end Stencil
