import Stencil.Function.Builtin
import Stencil.Proofs.Text.Pieces

/-! Splitting of texts. Its results are in a form that splitting leaves alone. As long as no blanks and
no empty pieces get lost, splitting is undone by joining, undoes joining, and together with joining it
replaces the separator. -/

namespace Stencil

open Text

/-- A text that splitting by the separator leaves whole. -/
structure IsPart (separator part : String) : Prop where
  nonempty : part ≠ ""
  trimmed : IsTrimmed part.toList
  uncut : separator ≠ "" → ¬separator.toList <:+: part.toList

instance (separator part : String) : Decidable (IsPart separator part) :=
  decidable_of_iff
    (part ≠ "" ∧ IsTrimmed part.toList ∧ (separator ≠ "" → ¬separator.toList <:+: part.toList))
    ⟨fun ⟨nonempty, trim, uncut⟩ => ⟨nonempty, trim, uncut⟩,
      fun isPart => ⟨isPart.nonempty, isPart.trimmed, isPart.uncut⟩⟩

/-- The pieces before they are trimmed. -/
def piecesOf (separator value : String) : List (List Char) :=
  if separator = "" then [value.toList] else cut separator.toList value.toList

/-- The trimmed pieces in which anything is left. -/
def keptPieces (pieces : List (List Char)) : List String :=
  (pieces.map trimmed).filterMap fun piece =>
    if piece.isEmpty then none else some (String.ofList piece)

section

variable {separator value part : String} {piece : List Char} {pieces : List (List Char)}

theorem splitText_eq_keptPieces (separator value : String) :
    splitText separator value = keptPieces (piecesOf separator value) := rfl

theorem piecesOf_of_ne (present : separator ≠ "") (value : String) :
    piecesOf separator value = cut separator.toList value.toList := if_neg present

theorem toList_ne_nil (present : separator ≠ "") : separator.toList ≠ [] :=
  present ∘ String.toList_eq_nil_iff.mp

/-! ### Parts -/

theorem exists_of_mem_keptPieces (member : part ∈ keptPieces pieces) :
    ∃ piece ∈ pieces, trimmed piece ≠ [] ∧ part = String.ofList (trimmed piece) := by
  obtain ⟨_, listed, kept⟩ := List.mem_filterMap.mp member
  obtain ⟨piece, known, rfl⟩ := List.mem_map.mp listed
  split at kept
  next => cases kept
  next some =>
    cases kept
    exact ⟨piece, known, some ∘ List.isEmpty_iff.mpr, rfl⟩

theorem keptPieces_cons (piece : List Char) (others : List (List Char)) :
    keptPieces (piece :: others) =
      if trimmed piece = [] then keptPieces others
      else String.ofList (trimmed piece) :: keptPieces others := by
  rw [keptPieces, List.map_cons, List.filterMap_cons]
  by_cases blank : trimmed piece = []
  · rw [blank]
    rfl
  · rw [if_neg blank, if_neg (blank ∘ List.isEmpty_iff.mp)]
    rfl

theorem keptPieces_of_isTrimmed (whole : ∀ piece ∈ pieces, piece ≠ [] ∧ IsTrimmed piece) :
    keptPieces pieces = pieces.map String.ofList := by
  induction pieces with
  | nil => rfl
  | cons piece others ih =>
    obtain ⟨⟨some, trim⟩, later⟩ := List.forall_mem_cons.mp whole
    rw [keptPieces_cons, trim.trimmed_eq_self, if_neg some, ih later, List.map_cons]

theorem uncut_of_mem_piecesOf (member : piece ∈ piecesOf separator value) (present : separator ≠ "") :
    ¬separator.toList <:+: piece := by
  have letters := toList_ne_nil present
  rw [piecesOf_of_ne present] at member
  exact (pieces_cut letters value.toList).absent_of_mem letters member

theorem isPart_of_mem_splitText (member : part ∈ splitText separator value) :
    IsPart separator part := by
  obtain ⟨piece, known, some, rfl⟩ := exists_of_mem_keptPieces member
  constructor
  · exact some ∘ String.ofList_eq_empty_iff.mp
  · rw [String.toList_ofList]
    exact isTrimmed_trimmed piece
  · intro present occurs
    rw [String.toList_ofList] at occurs
    exact uncut_of_mem_piecesOf known present (occurs.trans (infix_trimmed piece))

namespace IsPart

theorem piecesOf_eq (isPart : IsPart separator part) : piecesOf separator part = [part.toList] := by
  by_cases present : separator = ""
  · exact if_pos present
  · rw [piecesOf_of_ne present, cut_of_absent (isPart.uncut present)]

/-- A part stays as it is. -/
theorem splitText_eq (isPart : IsPart separator part) : splitText separator part = [part] := by
  have whole : ∀ piece ∈ [part.toList], piece ≠ [] ∧ IsTrimmed piece :=
    List.forall_mem_singleton.mpr ⟨toList_ne_nil isPart.nonempty, isPart.trimmed⟩
  rw [splitText_eq_keptPieces, isPart.piecesOf_eq, keptPieces_of_isTrimmed whole, List.map_singleton,
    String.ofList_toList]

end IsPart

theorem flatMap_splitText {parts : List String} (areParts : ∀ part ∈ parts, IsPart separator part) :
    parts.flatMap (splitText separator) = parts := by
  induction parts with
  | nil => rfl
  | cons part others ih =>
    obtain ⟨first, later⟩ := List.forall_mem_cons.mp areParts
    rw [List.flatMap_cons, first.splitText_eq, ih later, List.singleton_append]

/-! ### Joining -/

theorem toList_intercalate_ofList (glue : String) (pieces : List (List Char)) :
    (glue.intercalate (pieces.map String.ofList)).toList = glue.toList.intercalate pieces := by
  rw [String.toList_intercalate, List.map_map]
  simp [Function.comp_def]

section

variable (cutUp : Pieces separator.toList value.toList pieces) (present : separator ≠ "")
  (whole : ∀ piece ∈ pieces, piece ≠ [] ∧ IsTrimmed piece)

include cutUp present whole

theorem splitText_of_pieces : splitText separator value = pieces.map String.ofList := by
  rw [splitText_eq_keptPieces, piecesOf_of_ne present, cutUp.cut_eq (toList_ne_nil present),
    keptPieces_of_isTrimmed whole]

theorem intercalate_splitText_eq_replaceText (glue : String) :
    glue.intercalate (splitText separator value) = replaceText separator glue value := by
  rw [← String.toList_inj, splitText_of_pieces cutUp present whole, toList_intercalate_ofList,
    ← cutUp.cut_eq (toList_ne_nil present), intercalate_cut, replaceText, String.toList_ofList]

theorem intercalate_splitText : separator.intercalate (splitText separator value) = value := by
  rw [← String.toList_inj, splitText_of_pieces cutUp present whole, toList_intercalate_ofList,
    cutUp.intercalate_eq]

end

/-- Parts joined by a single character are split again. -/
theorem splitText_intercalate (single : separator.length = 1) {parts : List String}
    (some : parts ≠ []) (areParts : ∀ part ∈ parts, IsPart separator part) :
    splitText separator (separator.intercalate parts) = parts := by
  obtain ⟨c, letters⟩ := List.length_eq_one_iff.mp (String.length_toList.trans single)
  have present : separator ≠ "" := by
    rintro rfl
    cases letters
  have first : ∀ piece ∈ parts.map String.toList, StandsFirst separator.toList piece := by
    refine List.forall_mem_map.mpr fun part known => ?_
    have uncut := (areParts part known).uncut present
    rw [letters] at uncut ⊢
    exact standsFirst_singleton (uncut ∘ (List.singleton_infix_iff c _).mpr)
  have whole : ∀ piece ∈ parts.map String.toList, piece ≠ [] ∧ IsTrimmed piece :=
    List.forall_mem_map.mpr fun part known =>
      ⟨toList_ne_nil (areParts part known).nonempty, (areParts part known).trimmed⟩
  have cutUp : Pieces separator.toList (separator.intercalate parts).toList
      (parts.map String.toList) := by
    rw [String.toList_intercalate]
    exact pieces_intercalate (toList_ne_nil present) (some ∘ List.map_eq_nil_iff.mp) first
  rw [splitText_of_pieces cutUp present whole, List.map_map]
  simp [Function.comp_def]

/-- A longer separator may be found in front of where it was put. -/
example : splitText "--" ("--".intercalate ["a-", "b"]) = ["a", "-b"] := by decide

end

end Stencil
