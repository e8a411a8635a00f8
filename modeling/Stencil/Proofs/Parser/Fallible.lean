import Stencil.Proofs.Concatenation.OpenHole
import Stencil.Proofs.Culprit.Location

/-! What can become of the parse of a text. It gives a tree, or an error that points into the text, as
long as no number of the text has more digits than are read at all. -/

namespace Stencil

open Number

/-- What a parse comes to. -/
inductive ParseOutcome (text : String) : Except Failure Template → Prop where
  | tree (template : Template) : ParseOutcome text (.ok template)
  | error (error : TemplateError) (syntactic : error.isSyntactic = true)
      (place : ∃ before, before <+: text.toList ∧ error.position = .behind before) :
      ParseOutcome text (.error (.template error))
  | longNumber {before digits : List Char} (number : NumberAt text.toList before digits)
      (long : greatestDigitCount < digits.length) :
      ParseOutcome text (.error (.numberTooLong digits.length))

theorem exists_behind_of_parse {text : String} {error : TemplateError}
    (failed : parse text = .error (.template error)) :
    ∃ before, before <+: text.toList ∧ error.position = .behind before := by
  obtain ⟨before, after, whole, place, -⟩ := blames_parse text error failed
  exact ⟨before, ⟨_, whole.symm⟩, place⟩

theorem parseOutcome_parse (text : String) : ParseOutcome text (parse text) := by
  cases parsed : parse text with
  | ok template => exact .tree template
  | error failure =>
    cases tokenized : tokenize text with
    | error lexical =>
      have scanned := failure_of_tokenize tokenized
      rw [Parser.parse_of_failure scanned] at parsed
      cases parsed
      cases Scanner.isLexical_of_scan scanned with
      | cause cause position =>
        exact .error _ rfl (exists_behind_of_parse (Parser.parse_of_failure scanned))
      | numberTooLong count =>
        obtain ⟨before, digits, number, long, rfl⟩ := exists_numberAt_of_scan scanned
        exact .longNumber number long
    | ok tokens =>
      have same := Parser.parse_of_tokenize tokenized
      rw [parsed] at same
      obtain ⟨found, expected, -, rfl⟩ :=
        Parser.grammar_of_eager (endsInput_of_tokenize tokenized) same.symm
      exact .error _ rfl (exists_behind_of_parse parsed)

theorem parse_of_longNumber {text : String} {before digits : List Char}
    (number : NumberAt text.toList before digits) (long : greatestDigitCount < digits.length) :
    parse text = .error (.numberTooLong digits.length) :=
  Parser.parse_of_failure ((failure_of_numberAt number).1 long)

theorem ends_of_scan (text : String) :
    (scan text).failure = none ∧ EndsInput (scan text).tokens ∨
      ∃ failure, (scan text).failure = some failure ∧ IsLexical failure := by
  cases failed : (scan text).failure with
  | none => exact .inl ⟨rfl, Scanner.endsInput_of_scan Mode.noConfusion failed⟩
  | some failure => exact .inr ⟨failure, rfl, Scanner.isLexical_of_scan failed⟩

/-- A hole with a number of so many digits. -/
def nines (count : Nat) : String :=
  String.ofList ('{' :: (List.replicate count '9' ++ ['}']))

theorem numberAt_nines {count : Nat} (positive : 0 < count) :
    NumberAt (nines count).toList ['{'] (List.replicate count '9') where
  run := by
    refine ⟨['}'], String.toList_ofList, ?_, fun c member => ?_, ?_⟩
    · simp [Nat.ne_of_gt positive]
    · rw [List.eq_of_mem_replicate member]
      rfl
    · rintro c ⟨⟩
      rfl
  opened := by
    have brace : (Scanner.ofText ['{']).pull = _ :=
      Scanner.pullText_of_spells (.openHole []) .start
    rw [Scanner.EndsOpen, Scanner.scan_of_token brace,
      Scanner.scan_of_failed (Scanner.pull_of_blank (List.forall_mem_nil _) _)]
    rfl
  apart := by
    rintro c ⟨⟩
    decide

/-- A parse becomes no value exactly for a text whose scan comes to a number of too many digits.
Otherwise it is the tree, or the message and the place of an error of the text. Tokens end with the end
of the input or with a lexical failure, to which every other number that is too great leads. -/
theorem tryParse_eq_error_iff (text : String) :
    (∀ failure, tryParse text = .error failure ↔
      ∃ before digits, NumberAt text.toList before digits ∧ greatestDigitCount < digits.length ∧
        failure = .numberTooLong digits.length) ∧
    (∀ template, tryParse text = .ok (.success template) ↔ parse text = .ok template) ∧
    (∀ message position, tryParse text = .ok (.failure message position) ↔
      ∃ error, parse text = .error (.template error) ∧ error.isSyntactic = true ∧
        error.message = message ∧ error.position = position ∧
        ∃ before, before <+: text.toList ∧ position = .behind before) ∧
    ((scan text).failure = none ∧ EndsInput (scan text).tokens ∨
      ∃ failure, (scan text).failure = some failure ∧ IsLexical failure) ∧
    ∀ before digits, NumberAt text.toList before digits → digits.length ≤ greatestDigitCount →
      greatestNumber < ofDigits digits →
      parse text = .error (.template
        (.lexical (.numberOutOfRange (String.ofList digits)) (.behind before))) := by
  refine ⟨fun failure => ⟨fun failed => ?_, ?_⟩, fun template => ⟨fun done => ?_, fun parsed => ?_⟩,
    fun message position => ⟨fun done => ?_, ?_⟩, ends_of_scan text, ?_⟩
  · have outcome := parseOutcome_parse text
    unfold tryParse at failed
    generalize parse text = parsed at outcome failed
    cases outcome with
    | tree => cases failed
    | error => cases failed
    | longNumber number long =>
      cases failed
      exact ⟨_, _, number, long, rfl⟩
  · rintro ⟨before, digits, number, long, rfl⟩
    rw [tryParse, parse_of_longNumber number long]
    rfl
  · unfold tryParse at done
    generalize parse text = parsed at done
    unfold ParseResult.ofOutcome at done
    split at done <;> cases done
    rfl
  · rw [tryParse, parsed]
    rfl
  · have outcome := parseOutcome_parse text
    unfold tryParse at done
    generalize parse text = parsed at outcome done
    cases outcome with
    | tree => cases done
    | error error syntactic place =>
      cases done
      exact ⟨error, rfl, syntactic, rfl, rfl, place⟩
    | longNumber => cases done
  · rintro ⟨error, failed, -, rfl, rfl, -⟩
    rw [tryParse, failed]
    rfl
  · intro before digits number short great
    exact Parser.parse_of_failure ((failure_of_numberAt number).2 short great)

/-- Ten digits are read, and make a number that is too great. -/
theorem parse_tenNines :
    parse (nines 10) = .error (.template (.lexical (.numberOutOfRange "9999999999") (.behind ['{']))) :=
  (tryParse_eq_error_iff (nines 10)).2.2.2.2 _ _ (numberAt_nines (by decide)) (by decide) (by decide)

/-- A number of 4301 digits is not even found too great. -/
theorem tryParse_overlongNumber :
    tryParse (nines 4301) = .error (.numberTooLong 4301) ∧
      ∀ result, tryParse (nines 4301) ≠ .ok result := by
  have number : NumberAt (nines 4301).toList ['{'] (List.replicate 4301 '9') :=
    numberAt_nines (by decide)
  have long : greatestDigitCount < (List.replicate 4301 '9').length := by
    rw [List.length_replicate]
    decide
  have failed : tryParse (nines 4301) = .error (.numberTooLong 4301) := by
    apply ((tryParse_eq_error_iff _).1 _).mpr
    exact ⟨_, _, number, long, by rw [List.length_replicate]⟩
  refine ⟨failed, fun result done => ?_⟩
  rw [failed] at done
  cases done

end Stencil
