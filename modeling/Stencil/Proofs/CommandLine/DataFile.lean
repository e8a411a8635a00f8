import Mathlib
import Stencil.CommandLine.YamlFile
import Stencil.Proofs.CommandLine.Commands
import Stencil.Proofs.CommandLine.Settings

/-! Rendering with the mapping of a data file, whatever loads it. Keys are made into names that are told apart
exactly before they are told apart regardless of case. Two names that differ in case only are refused, but of
keys that make one and the same name the last is all that is seen. -/

namespace Stencil

open Text

namespace Mapping

/-- Two of the names are not the same, but cannot be told apart. -/
def IsAmbiguous (mapping : Mapping) : Prop :=
  ∃ name ∈ mapping.names, ∃ other ∈ mapping.names, name ≠ other ∧ fold name = fold other

/-- No two keys are equal as values, which loaders promise of what they load. -/
def KeysDiffer (mapping : Mapping) : Prop :=
  (mapping.map (·.1)).Pairwise fun key other => key.same other = false

instance (mapping : Mapping) : Decidable mapping.KeysDiffer :=
  inferInstanceAs (Decidable (List.Pairwise _ _))

end Mapping

namespace CommandLine

variable {seen : Surroundings} {arguments : List String}

/-- A command line that asks for a template that parses with the mapping that is loaded from a data file and
nothing else. -/
structure FileJob (seen : Surroundings) (arguments : List String) where
  debug : Bool
  job : Job
  text : String
  template : Template
  mapping : Mapping
  asked : Request.read arguments = .ok ⟨debug, .render job⟩
  unset : job.sets = []
  given : readTemplate seen job.template = .ok text
  parses : parse text = .ok template
  held : ∃ name bytes, job.data = some name ∧ name ≠ "" ∧
    readFile seen name .dataMissing = .ok bytes ∧
    dataMapping (normalPath name) (seen.load bytes) = .ok mapping

/-- How a run on a text with some traces ends, given how its template is rendered: as rendering does, unless
standard output refuses one of the lines. -/
inductive EndsAs (seen : Surroundings) (debug : Bool) (text : String) (traces : List String) :
    Except Failure Rendering → Outcome → Prop where
  | refused (failure : Failure) :
      EndsAs seen debug text traces (.error failure) (refuse text [] traces (.failure failure))
  | failed {rendering : Rendering} {failure : Failure} {outcome : Outcome}
      (fails : rendering.failure = some failure)
      (ends : Ends seen
        (refuse text rendering.lines (traces ++ if debug then callTraces failure else [])
          (.failure failure)) outcome) :
      EndsAs seen debug text traces (.ok rendering) outcome
  | complete {rendering : Rendering} {outcome : Outcome} (succeeds : rendering.failure = none)
      (ends : Ends seen (.finished 0 rendering.lines traces) outcome) :
      EndsAs seen debug text traces (.ok rendering) outcome

namespace FileJob

def isTraced (task : FileJob seen arguments) : Bool := task.debug || seen.debug

/-- The run ends as rendering the template with a mapping does. -/
def EndsWith (task : FileJob seen arguments) (values : Mapping) : Prop :=
  EndsAs seen task.isTraced task.text (parseTraces task.isTraced task.template)
    ((Data.mapping values).direct.map (task.job.evaluator.render task.template))
    (run seen arguments)

end FileJob

/-! ### Names of keys -/

/-- Keys count by their names only. -/
theorem addAll_namedValues {mapping : Mapping} (shown : ∀ entry ∈ mapping, entry.1.isWritable = true)
    (source : Source) : source.addAll (namedValues mapping).mapping = source.addAll mapping := by
  induction mapping generalizing source with
  | nil => rfl
  | cons entry rest ih =>
    obtain ⟨first, later⟩ := List.forall_mem_cons.mp shown
    calc source.addAll (namedValues (entry :: rest)).mapping
        = source.addNew entry.1.display entry.2 >>= fun source =>
            source.addAll (namedValues rest).mapping := Source.addAll_of_shown rfl _
      _ = source.addNew entry.1.display entry.2 >>= fun source => source.addAll rest := by
            simp only [ih later]
      _ = source.addAll (entry :: rest) := (Source.addAll_of_shown first rest).symm

theorem nodup_foldedNames_namesKeys {mapping : Mapping} {values : NamedValues}
    (distinct : (values.map (·.1)).Nodup) (named : NamesKeys mapping values) :
    (foldedNames values).Nodup ↔ ¬mapping.IsAmbiguous := by
  rw [← foldedNames_mapping, Mapping.foldedNames, names_mapping,
    List.nodup_map_iff_inj_on distinct, named.places]
  simp only [List.mem_eraseDups, Mapping.IsAmbiguous, not_exists, not_and]
  constructor
  · intro apart name listed other listed' different same
    exact different (apart name listed other listed' same)
  · intro clear name listed other listed' same
    by_contra different
    exact clear name listed other listed' different same

theorem nodup_foldedNames_iff_clear (mapping : Mapping) :
    mapping.foldedNames.Nodup ↔ mapping.names.Nodup ∧ ¬mapping.IsAmbiguous := by
  constructor
  · intro distinct
    refine ⟨distinct.of_map fold, ?_⟩
    rintro ⟨name, listed, other, listed', different, same⟩
    exact different (List.inj_on_of_nodup_map distinct listed listed' same)
  · intro ⟨distinct, clear⟩
    refine (List.nodup_map_iff_inj_on distinct).mpr fun name listed other listed' same => ?_
    by_contra different
    exact clear ⟨name, listed, other, listed', different, same⟩

/-! ### Runs -/

theorem endsAs_renderTemplate (self : Evaluator) (debug : Bool) {text : String} {template : Template}
    (parses : parse text = .ok template) (values : Mapping) :
    EndsAs seen debug text (parseTraces debug template)
      ((Data.mapping values).direct.map (self.render template))
      (renderTemplate seen self debug text values) := by
  have ends := ends_renderTemplate seen self debug text values
  rw [renderEnd, parses] at ends
  rw [Data.direct]
  cases adapted : Source.ofMapping values with
  | error failure =>
    rw [renderTemplate, parses, adapted]
    exact .refused failure
  | ok source =>
    simp only [adapted, renderingEnd] at ends
    cases outcome : (self.render template source).failure with
    | none =>
      rw [outcome] at ends
      exact .complete outcome ends
    | some failure =>
      rw [outcome] at ends
      exact .failed outcome ends

namespace FileJob

variable (task : FileJob seen arguments)

theorem run_eq : run seen arguments =
    match nameKeys task.mapping with
    | .error refusal => refuse "" [] [] refusal
    | .ok values => renderTemplate seen task.job.evaluator task.isTraced task.text values.mapping := by
  obtain ⟨name, bytes, data, named, read, holds⟩ := task.held
  have values : readData seen task.job.data = nameKeys task.mapping := by
    rw [data, readData, if_neg named, read]
    change dataMapping _ (seen.load bytes) >>= _ = _
    rw [holds]
    rfl
  have job : task.job.read seen = (nameKeys task.mapping).map (task.text, ·) := by
    rw [Job.read, task.given, values, task.unset]
    cases nameKeys task.mapping <;> rfl
  rw [run, task.asked]
  simp only [Request.run, job]
  cases nameKeys task.mapping <;> rfl

/-- Once the keys have names, the run only depends on the source that they make. -/
theorem endsWith_of_ofMapping {values : NamedValues} (named : nameKeys task.mapping = .ok values)
    {mapping : Mapping} (same : Source.ofMapping mapping = Source.ofMapping values.mapping) :
    task.EndsWith mapping := by
  rw [EndsWith, task.run_eq, named, Data.direct, same]
  exact endsAs_renderTemplate task.job.evaluator task.isTraced task.parses values.mapping

theorem refused_of_collision {values : NamedValues} (named : nameKeys task.mapping = .ok values)
    {name first : String}
    (failed : Source.ofMapping values.mapping = .error (.duplicateName name first)) :
    (run seen arguments).status = 2 ∧ (run seen arguments).output = "" := by
  rw [task.run_eq, named]
  simp only [renderTemplate, task.parses, failed]
  exact ⟨rfl, rfl⟩

end FileJob

/-- A run with the mapping of a data file ends as rendering with the names of its keys does, and as rendering
with the mapping itself where no two keys make the same name. It is refused before anything is written if two
names differ in case only, or one of the keys has no display form. Two keys that make the same name do not get
it refused, although the mapping itself would be. The keys of the mapping need not even differ. -/
theorem file_keys_named (task : FileJob seen arguments) :
    ((∃ entry ∈ task.mapping, entry.1.isWritable = false) →
      run seen arguments = refuse "" [] [] (.failure .unwritable)) ∧
    ((∀ entry ∈ task.mapping, entry.1.isWritable = true) →
      (∃ values, NamesKeys task.mapping values ∧ task.EndsWith values.mapping ∧
        ((∃ source, Source.ofMapping values.mapping = .ok source) ↔
          ¬task.mapping.IsAmbiguous)) ∧
      (task.mapping.names.Nodup → task.EndsWith task.mapping)) ∧
    (task.mapping.IsAmbiguous →
      (run seen arguments).status = 2 ∧ (run seen arguments).output = "") ∧
    ((∃ source, Source.ofMapping task.mapping = .ok source) ↔
      (∀ entry ∈ task.mapping, entry.1.isWritable = true) ∧ task.mapping.names.Nodup ∧
        ¬task.mapping.IsAmbiguous) := by
  have distinct := nodup_names_setAll (namedValues task.mapping)
  have names := namesKeys_setAll task.mapping
  have refused : (∃ entry ∈ task.mapping, entry.1.isWritable = false) →
      run seen arguments = refuse "" [] [] (.failure .unwritable) := by
    intro unshown
    rw [task.run_eq, nameKeys_of_unshown unshown]
  refine ⟨refused, fun shown => ⟨?_, fun apart => ?_⟩, fun ambiguous => ?_, ?_⟩
  · refine ⟨_, names, task.endsWith_of_ofMapping (nameKeys_of_shown shown) rfl, ?_⟩
    rw [Source.exists_ofMapping_iff, isClear_mapping_iff, nodup_foldedNames_namesKeys distinct names]
  · -- No key takes the place of another, so all of them are there under their names.
    have named := nameKeys_of_shown shown
    rw [setAll_of_nodup (by rwa [names_namedValues])] at named
    exact task.endsWith_of_ofMapping named (addAll_namedValues shown .empty).symm
  · by_cases shown : ∀ entry ∈ task.mapping, entry.1.isWritable = true
    · rcases ofMapping_named (setAll (namedValues task.mapping)) with
        ⟨once, -⟩ | ⟨-, name, first, failed, -⟩
      · exact absurd ambiguous ((nodup_foldedNames_namesKeys distinct names).mp once)
      · exact task.refused_of_collision (nameKeys_of_shown shown) failed
    · rw [refused (by simpa using shown)]
      exact ⟨rfl, rfl⟩
  · rw [Source.exists_ofMapping_iff, ← nodup_foldedNames_iff_clear]
    exact ⟨fun clear => ⟨clear.shown, clear.distinct⟩, fun ⟨shown, once⟩ => ⟨shown, once⟩⟩

/-- The bytes of a text without characters beyond one byte. -/
def plainBytes (text : String) : List UInt8 := text.toList.map fun c => c.toNat.toUInt8

/-- A file with a text in it and nothing else. -/
def oneFile (name text : String) : Surroundings :=
  ⟨fun path => if path = name then .bytes (plainBytes text) else .missing, "", false, loadYaml,
    fun _ => none⟩

/-- A run that asks for one value of a file. -/
def askForTrue : List String := ["render", "\x7btrue\x7d", "--data", "facts"]

/-- What the file of `askForTrue` holds with a text in it. -/
def factsIn (text : String) : Except Refusal Mapping :=
  dataMapping (normalPath "facts") (loadYaml (plainBytes text))

theorem readFile_oneFile (text : String) (missing : String → Refusal) :
    readFile (oneFile "facts" text) "facts" missing = .ok (plainBytes text) := by
  have path : normalPath "facts" = "facts" := by cbv
  simp [readFile, oneFile, path]

/-- The job of `askForTrue`. -/
def factsJob {text : String} {mapping : Mapping} (held : factsIn text = .ok mapping) :
    FileJob (oneFile "facts" text) askForTrue where
  debug := false
  job := ⟨"\x7btrue\x7d", some "facts", [], {}⟩
  text := "\x7btrue\x7d"
  template := ⟨[⟨[.property "true" ⟨1, 1, 2⟩], ⟨0, 1, 1⟩⟩]⟩
  mapping := mapping
  asked := by decide +kernel
  unset := rfl
  given := by cbv
  parses := by cbv
  held := ⟨"facts", plainBytes text, rfl, by decide, readFile_oneFile text _, held⟩

/-- The job is there if the names of the keys are known, which loaders promise to differ as values. -/
theorem exists_factsJob (text : String) (names : List String)
    (known : (factsIn text).toOption.map (fun mapping =>
      (mapping.names, decide mapping.KeysDiffer, mapping.all fun entry => entry.1.isWritable)) =
        some (names, true, true)) :
    ∃ task : FileJob (oneFile "facts" text) askForTrue, task.mapping.names = names ∧
      task.mapping.KeysDiffer ∧ ∀ entry ∈ task.mapping, entry.1.isWritable = true := by
  cases held : factsIn text with
  | error refusal =>
    rw [held] at known
    cases known
  | ok mapping =>
    rw [held] at known
    simp only [Except.toOption, Option.map_some, Option.some.injEq, Prod.mk.injEq,
      decide_eq_true_eq, List.all_eq_true] at known
    exact ⟨factsJob held, known⟩

theorem file_keys_named_facts :
    (∃ task : FileJob (oneFile "facts" "null: a\ntrue: b\n") askForTrue,
      task.mapping.names = ["None", "True"] ∧ task.EndsWith task.mapping) ∧
    ∃ task : FileJob (oneFile "facts" "null: a\nNONE: b\n") askForTrue,
      task.mapping.IsAmbiguous ∧
        (run (oneFile "facts" "null: a\nNONE: b\n") askForTrue).status = 2 := by
  constructor
  · obtain ⟨task, names, -, shown⟩ := exists_factsJob "null: a\ntrue: b\n" ["None", "True"]
      (by decide +kernel)
    have apart : task.mapping.names.Nodup := by
      rw [names]
      decide
    exact ⟨task, names, ((file_keys_named task).2.1 shown).2 apart⟩
  · obtain ⟨task, names, -⟩ := exists_factsJob "null: a\nNONE: b\n" ["None", "NONE"]
      (by decide +kernel)
    have ambiguous : task.mapping.IsAmbiguous := by
      refine ⟨"None", ?_, "NONE", ?_, by decide, by decide +kernel⟩ <;> simp [names]
    exact ⟨task, ambiguous, ((file_keys_named task).2.2.1 ambiguous).1⟩

/-- A key that is true and one that is the text `True` differ, but make one name, of which the run shows the
last value where the mapping itself is refused. -/
theorem same_names_pass :
    ∃ task : FileJob (oneFile "facts" "true: a\n'True': b\n") askForTrue,
      task.mapping.names = ["True", "True"] ∧ task.mapping.KeysDiffer ∧
      ¬task.mapping.foldedNames.Nodup ∧
      (∃ failure, Source.ofMapping task.mapping = .error failure) ∧
      run (oneFile "facts" "true: a\n'True': b\n") askForTrue = .finished 0 ["b"] [] := by
  obtain ⟨task, names, differ, -⟩ := exists_factsJob "true: a\n'True': b\n" ["True", "True"]
    (by decide +kernel)
  have twice : ¬task.mapping.foldedNames.Nodup := by
    rw [Mapping.foldedNames, names]
    decide +kernel
  refine ⟨task, names, differ, twice, ?_, by decide +kernel⟩
  rcases Source.ofMapping_outcome task.mapping with ⟨clear, -⟩ | ⟨failure, failed, -⟩
  · exact absurd clear.distinct twice
  · exact ⟨failure, failed⟩

end CommandLine

end Stencil
