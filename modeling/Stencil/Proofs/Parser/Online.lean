import Stencil.Proofs.Parser.Eager

/-! How far parsing looks ahead. What has been read is settled by the token behind it, whatever comes
later, and a token that is refused is refused by itself: with the tokens before it alone the run would
have gone on. -/

namespace Stencil.Eager

namespace Outcome

variable {α β : Type} {outcome : Outcome α}

theorem starved_of_andThen {next : α → List Token → Outcome β}
    (starved : outcome.andThen next = .starved) :
    outcome = .starved ∨ ∃ value rest, outcome = .read value rest ∧ next value rest = .starved := by
  cases outcome with
  | read value rest => exact .inr ⟨value, rest, rfl, starved⟩
  | refused found expected => cases starved
  | starved => exact .inl rfl

theorem starved_of_map {build : α → β} (starved : outcome.map build = .starved) :
    outcome = .starved := by
  cases outcome with
  | starved => rfl
  | _ => cases starved

theorem refused_of_andThen {next : α → List Token → Outcome β} {found : Token}
    {expected : Expectation} (refused : outcome.andThen next = .refused found expected) :
    outcome = .refused found expected ∨
      ∃ value rest, outcome = .read value rest ∧ next value rest = .refused found expected := by
  cases outcome with
  | read value rest => exact .inr ⟨value, rest, rfl, refused⟩
  | refused => cases refused; exact .inl rfl
  | starved => cases refused

theorem refused_of_map {build : α → β} {found : Token} {expected : Expectation}
    (refused : outcome.map build = .refused found expected) : outcome = .refused found expected := by
  cases outcome with
  | refused => cases refused; rfl
  | _ => cases refused

theorem refused_of_toExcept {found : Token} {expected : Expectation}
    (refused : outcome.toExcept = .error (.template (.grammar found expected))) :
    outcome = .refused found expected := by
  cases outcome with
  | refused => cases refused; rfl
  | _ => cases refused

end Outcome

theorem eq_nil_of_expect {kind : TokenKind} {expected : Expectation} {tokens : List Token}
    (starved : expect kind expected tokens = .starved) : tokens = [] := by
  cases tokens with
  | nil => rfl
  | cons token rest =>
    rw [expect] at starved
    split at starved <;> cases starved

theorem prefix_of_take_one {taken rest others : List Token} (same : rest.take 1 <+: others) :
    (taken ++ rest).take 1 <+: taken ++ others := by
  cases taken with
  | nil => exact same
  | cons token more => exact ⟨more ++ others, rfl⟩

/-- A run that settles every token as soon as it sees the next one. -/
structure IsOnline {α : Type} (run : List Token → Outcome α) : Prop where
  /-- What is read stays so with anything behind it that begins with the same token. -/
  reads : ∀ {tokens rest value}, run tokens = .read value rest →
    ∃ taken, tokens = taken ++ rest ∧
      ∀ others, rest.take 1 <+: others → run (taken ++ others) = .read value others
  /-- The tokens before a refused one are too few, and with it all that follows is refused. -/
  refuses : ∀ {tokens found expected}, run tokens = .refused found expected →
    ∃ before behind, tokens = before ++ found :: behind ∧ run before = .starved ∧
      ∀ others, run (before ++ found :: others) = .refused found expected

/-- What a run does once it has seen its first token: it refuses that token, takes it, or goes on with
all of them. -/
inductive StepsOnline {α : Type} (run : List Token → Outcome α) (token : Token) : Prop where
  | refuses (expected : Expectation) (same : ∀ rest, run (token :: rest) = .refused token expected)
  | takes {inner : List Token → Outcome α} (online : IsOnline inner)
      (same : ∀ rest, run (token :: rest) = inner rest)
  | leaves {inner : List Token → Outcome α} (online : IsOnline inner)
      (same : ∀ rest, run (token :: rest) = inner (token :: rest))

section Rules

variable {α β : Type}

theorem isOnline_starved : IsOnline fun _ => (.starved : Outcome α) where
  reads read := nomatch read
  refuses refused := nomatch refused

theorem isOnline_read (value : α) : IsOnline fun tokens => .read value tokens where
  reads read := by
    cases read
    exact ⟨[], rfl, fun others _ => rfl⟩
  refuses refused := nomatch refused

/-- A run that reads some tokens without looking behind them reads them as well where they are last. -/
theorem IsOnline.outcome_of_prefix {run : List Token → Outcome α} (online : IsOnline run)
    {taken rest : List Token} {value : α} (read : run (taken ++ rest) = .read value rest) :
    run taken = .starved ∨ run taken = .read value [] := by
  cases short : run taken with
  | starved => exact .inl rfl
  | refused found expected =>
    obtain ⟨before, behind, rfl, -, always⟩ := online.refuses short
    have refused := always (behind ++ rest)
    rw [← List.cons_append, ← List.append_assoc, read] at refused
    cases refused
  | read other left =>
    obtain ⟨inner, rfl, always⟩ := online.reads short
    have longer := always (left ++ rest) ((List.take_prefix 1 left).trans ⟨rest, rfl⟩)
    rw [← List.append_assoc, read] at longer
    obtain ⟨rfl, same⟩ := Outcome.read.inj longer
    rw [List.self_eq_append_left.mp same]
    exact .inr rfl

theorem IsOnline.andThen {run : List Token → Outcome α} {next : α → List Token → Outcome β}
    (first : IsOnline run) (second : ∀ value, IsOnline (next value)) :
    IsOnline fun tokens => (run tokens).andThen next where
  reads done := by
    obtain ⟨value, middle, readFirst, readSecond⟩ := Outcome.read_of_andThen done
    obtain ⟨front, rfl, firstAlways⟩ := first.reads readFirst
    obtain ⟨back, rfl, secondAlways⟩ := (second value).reads readSecond
    refine ⟨front ++ back, (List.append_assoc ..).symm, fun others same => ?_⟩
    simp only [List.append_assoc]
    rw [firstAlways _ (prefix_of_take_one same), Outcome.read_andThen, secondAlways _ same]
  refuses {tokens found expected} stopped := by
    rcases Outcome.refused_of_andThen stopped with refused | ⟨value, middle, read, refused⟩
    · obtain ⟨before, behind, split, starved, always⟩ := first.refuses refused
      refine ⟨before, behind, split, ?_, fun others => ?_⟩
      · simp only [starved, Outcome.andThen]
      · simp only [always, Outcome.andThen]
    · obtain ⟨front, rfl, firstAlways⟩ := first.reads read
      obtain ⟨before, behind, rfl, starved, always⟩ := (second value).refuses refused
      refine ⟨front ++ before, behind, (List.append_assoc ..).symm, ?_, fun others => ?_⟩
      · -- Without a token behind it the first run may not get as far as the second.
        cases before with
        | nil =>
          rcases first.outcome_of_prefix read with short | short
          · simp only [List.append_nil, short, Outcome.andThen]
          · simp only [List.append_nil, short, Outcome.read_andThen, starved]
        | cons token more =>
          rw [firstAlways (token :: more) ⟨more, rfl⟩, Outcome.read_andThen, starved]
      · have same : (before ++ found :: behind).take 1 <+: before ++ found :: others :=
          prefix_of_take_one ⟨others, rfl⟩
        simp only [List.append_assoc]
        rw [firstAlways _ same, Outcome.read_andThen, always]

theorem IsOnline.map {run : List Token → Outcome α} (online : IsOnline run) (build : α → β) :
    IsOnline fun tokens => (run tokens).map build :=
  online.andThen fun value => isOnline_read (build value)

/-- A run can be judged by what it does with its first token. -/
theorem isOnline_of_cons {run : List Token → Outcome α} (none : run [] = .starved)
    (some : ∀ token, StepsOnline run token) : IsOnline run where
  reads {tokens rest value} read := by
    cases tokens with
    | nil => rw [none] at read; cases read
    | cons token tokens =>
      cases some token with
      | refuses expected same => rw [same] at read; cases read
      | takes online same =>
        rw [same] at read
        obtain ⟨taken, rfl, always⟩ := online.reads read
        exact ⟨token :: taken, rfl, fun others begins => (same _).trans (always others begins)⟩
      | leaves online same =>
        rw [same] at read
        obtain ⟨taken, split, always⟩ := online.reads read
        refine ⟨taken, split, fun others begins => ?_⟩
        -- The first token is still the same, whether it was taken or not.
        have first : (taken ++ rest).take 1 <+: taken ++ others := prefix_of_take_one begins
        rw [← split] at first
        obtain ⟨more, whole⟩ := first
        rw [← always others begins, ← whole]
        exact same more
  refuses {tokens found expected} refused := by
    cases tokens with
    | nil => rw [none] at refused; cases refused
    | cons token tokens =>
      cases some token with
      | refuses expected same =>
        rw [same] at refused
        cases refused
        exact ⟨[], tokens, rfl, none, same⟩
      | takes online same =>
        rw [same] at refused
        obtain ⟨before, behind, rfl, starved, always⟩ := online.refuses refused
        exact ⟨token :: before, behind, rfl, (same _).trans starved,
          fun others => (same _).trans (always others)⟩
      | leaves online same =>
        rw [same] at refused
        obtain ⟨before, behind, split, starved, always⟩ := online.refuses refused
        cases before with
        | nil =>
          obtain ⟨rfl, rfl⟩ := List.cons.inj split
          exact ⟨[], tokens, rfl, none, fun others => (same _).trans (always others)⟩
        | cons first more =>
          obtain ⟨rfl, rfl⟩ := List.cons.inj split
          exact ⟨token :: more, behind, rfl, (same _).trans starved,
            fun others => (same _).trans (always others)⟩

end Rules

/-! ### The parsing functions -/

theorem isOnline_expect (kind : TokenKind) (expected : Expectation) :
    IsOnline (expect kind expected) := by
  apply isOnline_of_cons rfl
  intro token
  by_cases found : token.kind = kind
  · exact .takes (isOnline_read token) fun rest => if_pos found
  · exact .refuses expected fun rest => if_neg found

mutual

theorem isOnline_argument : (depth : Nat) → IsOnline (argument depth)
  | 0 => isOnline_starved
  | depth + 1 => by
    apply isOnline_of_cons rfl
    intro token
    cases kind : token.kind with
    | number =>
      have read := isOnline_read
        (Node.constant (.integer (Number.ofDigits token.lexeme.toList)) token.position)
      exact .takes read fun rest => by simp only [argument, kind]
    | string =>
      have read := isOnline_read
        (Node.constant (.text (Literal.decode token.lexeme)) token.position)
      exact .takes read fun rest => by simp only [argument, kind]
    | identifier =>
      have behind : IsOnline fun rest => argument (depth + 1) (token :: rest) := by
        apply isOnline_of_cons
        · simp only [argument, kind]
        intro opening
        by_cases opened : opening.kind = .openParen
        · refine .takes (isOnline_call depth token) fun inner => ?_
          simp only [argument, kind, if_pos opened]
        · have read := isOnline_read (Node.property token.lexeme token.position)
          exact .leaves read fun inner => by simp only [argument, kind, if_neg opened]
      exact .takes behind fun rest => rfl
    | _ => exact .refuses .argument fun rest => by simp only [argument, kind]

theorem isOnline_call : (depth : Nat) → (name : Token) → IsOnline (call depth name)
  | 0, _ => isOnline_starved
  | depth + 1, name => by
    apply isOnline_of_cons rfl
    intro token
    by_cases starts : token.kind.startsArgument
    · have all := (isOnline_argument depth).andThen fun first =>
        (isOnline_moreArguments depth).andThen fun others =>
        (isOnline_expect .closeParen .commaOrCloseParen).map fun _ =>
        Node.call name.lexeme (first :: others) name.position
      exact .leaves all fun rest => if_pos starts
    · have all := (isOnline_expect .closeParen .argumentOrCloseParen).map fun _ =>
        Node.call name.lexeme [] name.position
      exact .leaves all fun rest => if_neg starts

theorem isOnline_moreArguments : (depth : Nat) → IsOnline (moreArguments depth)
  | 0 => isOnline_starved
  | depth + 1 => by
    apply isOnline_of_cons rfl
    intro token
    by_cases comma : token.kind = .comma
    · have all := (isOnline_argument depth).andThen fun next =>
        (isOnline_moreArguments depth).map fun others => next :: others
      exact .takes all fun rest => if_pos comma
    · exact .leaves (isOnline_read []) fun rest => if_neg comma

end

theorem isOnline_pipes (depth : Nat) (left : Node) : IsOnline (pipes depth left) := by
  induction depth generalizing left with
  | zero => exact isOnline_starved
  | succ depth ih =>
    apply isOnline_of_cons rfl
    intro token
    by_cases piped : token.kind = .pipe
    · have all := (isOnline_argument depth).andThen fun right =>
        ih (.pipe left right token.position)
      exact .takes all fun rest => if_pos piped
    · exact .leaves (isOnline_read left) fun rest => if_neg piped

theorem isOnline_chain (depth : Nat) : IsOnline (chain depth) :=
  (isOnline_argument depth).andThen fun first => isOnline_pipes depth first

theorem isOnline_parts (depth : Nat) : IsOnline (parts depth) := by
  induction depth with
  | zero => exact isOnline_starved
  | succ depth ih =>
    apply isOnline_of_cons rfl
    intro token
    cases kind : token.kind with
    | text =>
      have all := ih.map fun others => Node.text token.lexeme token.position :: others
      exact .takes all fun rest => by simp only [parts, kind]
    | openHole =>
      have all := (isOnline_chain depth).andThen fun first =>
        (isOnline_expect .closeHole .pipeOrCloseHole).andThen fun _ =>
        ih.map fun others => first :: others
      exact .takes all fun rest => by simp only [parts, kind]
    | _ => exact .leaves (isOnline_read []) fun rest => by simp only [parts, kind]

theorem isOnline_line (depth : Nat) : IsOnline (line depth) := by
  apply isOnline_of_cons rfl
  intro token
  exact .leaves ((isOnline_parts depth).map (Parser.lineOf token.position)) fun rest => rfl

theorem isOnline_moreLines (depth : Nat) : IsOnline (moreLines depth) := by
  induction depth with
  | zero => exact isOnline_starved
  | succ depth ih =>
    apply isOnline_of_cons rfl
    intro token
    by_cases broken : token.kind = .lineBreak
    · have all := (isOnline_line depth).andThen fun next => ih.map fun others => next :: others
      exact .takes all fun rest => if_pos broken
    · exact .leaves (isOnline_read []) fun rest => if_neg broken

theorem isOnline_ended : IsOnline ended := by
  apply isOnline_of_cons rfl
  intro token
  by_cases last : token.kind = .endOfInput
  · exact .leaves (isOnline_read ()) fun rest => if_pos last
  · exact .refuses .lineBreakOrEnd fun rest => if_neg last

theorem isOnline_template (depth : Nat) : IsOnline (template depth) :=
  (isOnline_line depth).andThen fun first => (isOnline_moreLines depth).andThen fun others =>
    isOnline_ended.map fun _ => Template.mk (first :: others)

end Stencil.Eager
