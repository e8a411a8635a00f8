import Stencil.Proofs.Text.Line
import Stencil.Text.Search

/-! Line ends. The lines of a text are the pieces between its line feeds, without the carriage return
at the end of each but the last. With line feeds between them they are the text in which every line
end is a line feed alone. -/

namespace Stencil.Text

def withoutReturn (letters : List Char) : List Char :=
  if letters.getLast? = some '\r' then letters.dropLast else letters

/-- Each but the last without the carriage return at its end. -/
def withoutReturns : List (List Char) → List (List Char)
  | [] => []
  | [last] => [last]
  | line :: next :: rest => withoutReturn line :: withoutReturns (next :: rest)

theorem withoutReturn_cons (c : Char) {letters : List Char} (apart : c = '\r' → letters ≠ []) :
    withoutReturn (c :: letters) = c :: withoutReturn letters := by
  cases letters with
  | nil =>
    have plain : c ≠ '\r' := fun returned => apart returned rfl
    simp [withoutReturn, plain]
  | cons d rest =>
    simp only [withoutReturn, List.getLast?_cons_cons, List.dropLast_cons_cons]
    split <;> rfl

theorem withoutReturns_cons {others : List (List Char)} (more : others ≠ [])
    (line : List Char) : withoutReturns (line :: others) =
      withoutReturn line :: withoutReturns others := by
  obtain ⟨next, rest, rfl⟩ := List.exists_cons_of_ne_nil more
  rfl

theorem lines_ne_nil (text : List Char) : lines text ≠ [] := by
  intro none
  obtain ⟨line, more, found, -⟩ := exists_lines_cons text
  cases none.symm.trans found

/-- An empty piece in front of another one has a line feed behind it. -/
theorem exists_cons_of_splitOn {text : List Char} {others : List (List Char)}
    (cut : text.splitOn '\n' = [] :: others) (more : others ≠ []) :
    ∃ rest, text = '\n' :: rest := by
  have whole : ['\n'].intercalate (text.splitOn '\n') = text := List.intercalate_splitOn '\n'
  rw [cut, List.intercalate_cons_of_ne_nil more] at whole
  exact ⟨_, whole.symm⟩

/-- The characters of a piece are characters of the text, but no line feeds. -/
theorem mem_and_ne_of_mem_splitOn {text piece : List Char} {c : Char}
    (member : piece ∈ text.splitOn '\n') (inside : c ∈ piece) : c ∈ text ∧ c ≠ '\n' := by
  induction text generalizing piece with
  | nil =>
    rw [List.splitOn_nil, List.mem_singleton] at member
    subst member
    cases inside
  | cons first rest ih =>
    have behind : c ∈ rest ∧ c ≠ '\n' → c ∈ first :: rest ∧ c ≠ '\n' :=
      And.imp_left (List.mem_cons_of_mem first)
    rw [List.splitOn_cons_eq_if_modifyHead] at member
    split at member
    next =>
      rcases List.mem_cons.mp member with rfl | later
      · cases inside
      · exact behind (ih later inside)
    next other =>
      obtain ⟨head, others, cut⟩ := List.exists_cons_of_ne_nil (List.splitOn_ne_nil '\n' rest)
      rw [cut] at member ih
      rcases List.mem_cons.mp member with rfl | later
      · rcases List.mem_cons.mp inside with rfl | within
        · exact ⟨List.mem_cons_self, by simpa using other⟩
        · exact behind (ih List.mem_cons_self within)
      · exact behind (ih (List.mem_cons_of_mem head later) inside)

theorem lines_eq_withoutReturns (text : List Char) :
    lines text = withoutReturns (text.splitOn '\n') := by
  fun_induction lines text with
  | case1 => rfl
  | case2 rest ih =>
    have cut : ('\r' :: '\n' :: rest).splitOn '\n' = ['\r'] :: rest.splitOn '\n' := by
      simp [List.splitOn_cons_eq_if_modifyHead]
    rw [cut, withoutReturns_cons (List.splitOn_ne_nil _ _), ih]
    rfl
  | case3 rest ih =>
    have cut : ('\n' :: rest).splitOn '\n' = [] :: rest.splitOn '\n' := by
      simp [List.splitOn_cons_eq_if_modifyHead]
    rw [cut, withoutReturns_cons (List.splitOn_ne_nil _ _), ih]
    rfl
  | case4 c rest _ _ none => exact absurd none (lines_ne_nil rest)
  | case5 c rest lone plain line more found ih =>
    obtain ⟨piece, others, cut⟩ := List.exists_cons_of_ne_nil (List.splitOn_ne_nil '\n' rest)
    have longer : (c :: rest).splitOn '\n' = (c :: piece) :: others := by
      have different : c ≠ '\n' := plain
      simp [List.splitOn_cons_eq_if_modifyHead, different, cut]
    rw [found, cut] at ih
    rw [longer]
    cases others with
    | nil =>
      cases ih
      rfl
    | cons next rest =>
      -- In front of an empty piece a carriage return would belong to the line end.
      have apart : c = '\r' → piece ≠ [] := by
        rintro returned rfl
        obtain ⟨behind, broken⟩ := exists_cons_of_splitOn cut (List.cons_ne_nil next rest)
        exact lone behind returned broken
      rw [withoutReturns_cons (List.cons_ne_nil next rest)] at ih ⊢
      obtain ⟨rfl, rfl⟩ := List.cons.inj ih
      rw [withoutReturn_cons c apart]

/-- Lines with line feeds between them. -/
theorem intercalate_lines (text : List Char) :
    ['\n'].intercalate (lines text) = substitute ['\r', '\n'] ['\n'] text := by
  unfold substitute
  fun_induction lines text with
  | case1 => rfl
  | case2 rest ih =>
    rw [List.intercalate_cons_of_ne_nil (lines_ne_nil rest), ih]
    simp [substituteFrom]
  | case3 rest ih =>
    rw [List.intercalate_cons_of_ne_nil (lines_ne_nil rest), ih]
    simp [substituteFrom]
  | case4 c rest _ _ none => exact absurd none (lines_ne_nil rest)
  | case5 c rest lone plain line more found ih =>
    have single : ['\r', '\n'].isPrefixOf (c :: rest) = false := by
      cases prefixed : ['\r', '\n'].isPrefixOf (c :: rest) with
      | false => rfl
      | true =>
        obtain ⟨behind, same⟩ := List.isPrefixOf_iff_prefix.mp prefixed
        obtain ⟨rfl, rfl⟩ := List.cons.inj same
        exact (lone behind rfl rfl).elim
    rw [found] at ih
    rw [substituteFrom, single, ← ih]
    cases more with
    | nil => rfl
    | cons next others => rfl

end Stencil.Text
