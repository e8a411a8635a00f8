import Stencil.Literal

/-! Where a string literal ends. Its closing quote is the first that stands behind any number of
doubled ones and has no other quote behind it. The search for it, from one quote to the next, comes to
an end on every text, and finds none exactly if every run of quotes is of even length. -/

namespace Stencil.Literal

/-- A search for a closing quote that has come to its end, and how many characters there are up to and
with the one that it found. From one quote it goes on to the next; a quote with another one behind it is
passed together with that one. -/
inductive Seeks : List Char → Option Nat → Prop where
  | missing {plain : List Char} (unquoted : '\'' ∉ plain) : Seeks plain none
  | closed {plain following : List Char} (unquoted : '\'' ∉ plain)
      (single : following.head? ≠ some '\'') :
      Seeks (plain ++ '\'' :: following) (some (plain.length + 1))
  | passed {plain rest : List Char} {found : Option Nat} (unquoted : '\'' ∉ plain)
      (seeks : Seeks rest found) :
      Seeks (plain ++ '\'' :: '\'' :: rest) (found.map (· + (plain.length + 2)))

/-- Every quote is the first or the second of a pair, where pairs are made from the left. -/
inductive IsPaired : List Char → Prop where
  | nil : IsPaired []
  | plain {c : Char} {rest : List Char} (different : c ≠ '\'') (paired : IsPaired rest) :
      IsPaired (c :: rest)
  | pair {rest : List Char} (paired : IsPaired rest) : IsPaired ('\'' :: '\'' :: rest)

/-- Quotes with no other quote before or behind them are even in number. -/
def HasEvenRuns (text : List Char) : Prop :=
  ∀ front count back, text = front ++ (List.replicate count '\'' ++ back) →
    front.getLast? ≠ some '\'' → back.head? ≠ some '\'' → count % 2 = 0

theorem closing_cons {c : Char} (plain : c ≠ '\'') (rest : List Char) :
    closing (c :: rest) = (closing rest).map (· + 1) := by
  rw [closing]
  · intro more same
    exact absurd same plain
  · intro same
    exact absurd same plain

theorem head?_ne_quote {following : List Char}
    (single : ∀ more, following = '\'' :: more → False) : following.head? ≠ some '\'' := by
  intro quote
  obtain ⟨more, rfl⟩ := List.head?_eq_some_iff.mp quote
  exact single more rfl

theorem closing_quote {following : List Char} (single : following.head? ≠ some '\'') :
    closing ('\'' :: following) = some 1 := by
  rw [closing]
  rintro more rfl
  exact single rfl

theorem closing_double (text : List Char) {following : List Char}
    (single : following.head? ≠ some '\'') :
    closing (double text ++ '\'' :: following) = some ((double text).length + 1) := by
  induction text with
  | nil => exact closing_quote single
  | cons c rest ih =>
    by_cases quote : c = '\''
    · subst quote
      simp [double, closing, ih]
    · simp [double, quote, closing_cons quote, ih]

/-- What is behind an opening quote, cut at the closing one. -/
theorem eq_double_of_closing {rest : List Char} {count : Nat} (closed : closing rest = some count) :
    ∃ text following, rest = double text ++ '\'' :: following ∧
      count = (double text).length + 1 ∧ following.head? ≠ some '\'' := by
  fun_induction closing rest generalizing count with
  | case1 => cases closed
  | case2 more ih =>
    obtain ⟨inner, found, rfl⟩ := Option.map_eq_some_iff.mp closed
    obtain ⟨text, following, rfl, rfl, single⟩ := ih found
    exact ⟨'\'' :: text, following, by simp [double], by simp [double], single⟩
  | case3 following single =>
    cases closed
    exact ⟨[], following, rfl, rfl, head?_ne_quote single⟩
  | case4 c more _ plain ih =>
    obtain ⟨inner, found, rfl⟩ := Option.map_eq_some_iff.mp closed
    obtain ⟨text, following, rfl, rfl, single⟩ := ih found
    have different : c ≠ '\'' := plain
    exact ⟨c :: text, following, by simp [double, different], by simp [double, different], single⟩

/-! ### The search -/

theorem closing_append {plain : List Char} (unquoted : '\'' ∉ plain) (rest : List Char) :
    closing (plain ++ rest) = (closing rest).map (· + plain.length) := by
  induction plain with
  | nil => simp
  | cons c plain ih =>
    obtain ⟨different, others⟩ := List.ne_and_not_mem_of_not_mem_cons unquoted
    rw [List.cons_append, closing_cons (Ne.symm different), ih others, Option.map_map]
    rfl

theorem Seeks.closing_eq {text : List Char} {found : Option Nat} (seeks : Seeks text found) :
    closing text = found := by
  induction seeks with
  | @missing plain unquoted =>
    have behind := closing_append unquoted []
    rwa [List.append_nil] at behind
  | @closed plain following unquoted single =>
    rw [closing_append unquoted, closing_quote single, Option.map_some, Nat.add_comm]
  | @passed plain rest found unquoted _ ih =>
    rw [closing_append unquoted, closing, ih, Option.map_map]
    congr 1
    funext count
    simp only [Function.comp]
    omega

/-- A character that is no quote only makes the way longer. -/
theorem Seeks.cons {c : Char} {text : List Char} {found : Option Nat} (different : c ≠ '\'')
    (seeks : Seeks text found) : Seeks (c :: text) (found.map (· + 1)) := by
  have wider : ∀ {plain : List Char}, '\'' ∉ plain → '\'' ∉ c :: plain :=
    List.not_mem_cons_of_ne_of_not_mem (Ne.symm different)
  cases seeks with
  | missing unquoted => exact .missing (wider unquoted)
  | closed unquoted single => exact .closed (wider unquoted) single
  | passed unquoted seeks =>
    have longer := Seeks.passed (wider unquoted) seeks
    rw [Option.map_map]
    exact longer

theorem seeks_closing (text : List Char) : Seeks text (closing text) := by
  fun_induction closing text with
  | case1 => exact .missing List.not_mem_nil
  | case2 rest ih => exact .passed List.not_mem_nil ih
  | case3 following single => exact .closed List.not_mem_nil (head?_ne_quote single)
  | case4 c rest _ different ih => exact ih.cons different

/-- The search ends on every text, in one way. -/
theorem seeks_iff {text : List Char} {found : Option Nat} :
    Seeks text found ↔ found = closing text :=
  ⟨fun seeks => seeks.closing_eq.symm, fun same => same ▸ seeks_closing text⟩

/-! ### Texts in which no quote closes -/

/-- What holds of the empty text, is kept by plain characters and by pairs of quotes in front, and fails
where a single quote comes first, holds exactly where no quote closes. -/
theorem closing_eq_none_iff {holds : List Char → Prop} (nil : holds [])
    (plain : ∀ {c rest}, c ≠ '\'' → (holds (c :: rest) ↔ holds rest))
    (pair : ∀ {rest}, holds ('\'' :: '\'' :: rest) ↔ holds rest)
    (lone : ∀ {following}, following.head? ≠ some '\'' → ¬holds ('\'' :: following))
    (text : List Char) : closing text = none ↔ holds text := by
  fun_induction closing text with
  | case1 => exact iff_of_true rfl nil
  | case2 rest ih => rw [Option.map_eq_none_iff, ih, pair]
  | case3 following single =>
    exact iff_of_false (Option.some_ne_none 1) (lone (head?_ne_quote single))
  | case4 c rest _ different ih => rw [Option.map_eq_none_iff, ih, plain different]

theorem closing_eq_none_iff_isPaired (text : List Char) : closing text = none ↔ IsPaired text := by
  apply closing_eq_none_iff .nil
  case plain =>
    refine fun different => ⟨fun paired => ?_, .plain different⟩
    cases paired with
    | plain _ paired => exact paired
    | pair => exact absurd rfl different
  case pair =>
    refine ⟨fun paired => ?_, .pair⟩
    cases paired with
    | plain different => exact absurd rfl different
    | pair paired => exact paired
  case lone =>
    intro following single paired
    cases paired with
    | plain different => exact different rfl
    | pair => exact single rfl

theorem hasEvenRuns_nil : HasEvenRuns [] := by
  intro front count back cut _ _
  have short := congrArg List.length cut
  simp only [List.length_nil, List.length_append, List.length_replicate] at short
  omega

theorem getLast?_ne_of_cons {c d : Char} {front : List Char}
    (apart : (c :: front).getLast? ≠ some d) : front.getLast? ≠ some d := by
  intro last
  rw [List.getLast?_cons, last, Option.getD_some] at apart
  exact apart rfl

/-- A character that is no quote belongs to no run. -/
theorem hasEvenRuns_cons {c : Char} {rest : List Char} (different : c ≠ '\'') :
    HasEvenRuns (c :: rest) ↔ HasEvenRuns rest := by
  constructor
  · rintro even front count back rfl apart later
    refine even (c :: front) count back rfl ?_ later
    cases front with
    | nil => simpa using different
    | cons d front => rwa [List.getLast?_cons_cons]
  · intro even front count back cut apart later
    cases front with
    | nil =>
      cases count with
      | zero => rfl
      | succ count => exact absurd (List.cons.inj cut).1 different
    | cons d front =>
      exact even front count back (List.cons.inj cut).2 (getLast?_ne_of_cons apart) later

/-- A pair of quotes is a run of its own, or makes the run behind it longer by two. -/
theorem hasEvenRuns_pair {rest : List Char} :
    HasEvenRuns ('\'' :: '\'' :: rest) ↔ HasEvenRuns rest := by
  constructor
  · rintro even front count back rfl apart later
    cases front with
    | nil =>
      have longer := even [] (count + 2) back rfl (by simp) later
      omega
    | cons c front => exact even ('\'' :: '\'' :: c :: front) count back rfl apart later
  · intro even front count back cut apart later
    -- A run that begins with the pair goes on behind it. Any other stands behind it as a whole.
    match front, count with
    | [], 0 => rfl
    | [], 1 =>
      obtain rfl := (List.cons.inj cut).2
      exact absurd rfl later
    | [], count + 2 =>
      have inner := (List.cons.inj (List.cons.inj cut).2).2
      have shorter := even [] count back inner (by simp) later
      omega
    | [c], count =>
      obtain rfl := (List.cons.inj cut).1
      exact absurd rfl apart
    | c :: d :: front, count =>
      have inner := (List.cons.inj (List.cons.inj cut).2).2
      exact even front count back inner (getLast?_ne_of_cons (getLast?_ne_of_cons apart)) later

theorem closing_eq_none_iff_hasEvenRuns (text : List Char) :
    closing text = none ↔ HasEvenRuns text := by
  apply closing_eq_none_iff hasEvenRuns_nil hasEvenRuns_cons hasEvenRuns_pair
  intro following single even
  exact absurd (even [] 1 following rfl (by simp) single) (by decide)

end Stencil.Literal
