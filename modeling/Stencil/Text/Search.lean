/-! Search for a separator or a pattern, from the left and without overlap: pieces between
occurrences, and replacement of occurrences. -/

namespace Stencil.Text

/-- Puts a character in front of the first piece. -/
def consFirst (c : Char) : List (List Char) → List (List Char)
  | [] => [[c]]
  | piece :: rest => (c :: piece) :: rest

/-- The pieces between the occurrences of a separator, after `skip` characters that belong to
the occurrence just found. -/
def cutFrom (separator : List Char) : Nat → List Char → List (List Char)
  | _, [] => [[]]
  | skip + 1, _ :: rest => cutFrom separator skip rest
  | 0, c :: rest =>
    if separator.isPrefixOf (c :: rest) then
      [] :: cutFrom separator (separator.length - 1) rest
    else
      consFirst c (cutFrom separator 0 rest)

/-- The pieces of a text between the occurrences of a separator. -/
def cut (separator text : List Char) : List (List Char) := cutFrom separator 0 text

/-- Replaces the occurrences of a pattern, after `skip` characters that belong to the
occurrence just found. -/
def substituteFrom (pattern replacement : List Char) : Nat → List Char → List Char
  | _, [] => []
  | skip + 1, _ :: rest => substituteFrom pattern replacement skip rest
  | 0, c :: rest =>
    if pattern.isPrefixOf (c :: rest) then
      replacement ++ substituteFrom pattern replacement (pattern.length - 1) rest
    else
      c :: substituteFrom pattern replacement 0 rest

/-- The text with every occurrence of a pattern replaced. -/
def substitute (pattern replacement text : List Char) : List Char :=
  substituteFrom pattern replacement 0 text

/-- The pattern stands somewhere in the text. -/
def occurs (pattern : List Char) : List Char → Bool
  | [] => pattern.isEmpty
  | c :: rest => pattern.isPrefixOf (c :: rest) || occurs pattern rest

theorem cutFrom_ne_nil (separator : List Char) (skip : Nat) (text : List Char) :
    cutFrom separator skip text ≠ [] := by
  induction text generalizing skip with
  | nil => cases skip <;> simp [cutFrom]
  | cons c rest ih =>
    cases skip with
    | succ skip => simpa [cutFrom] using ih skip
    | zero =>
      simp only [cutFrom]
      split
      · simp
      · cases found : cutFrom separator 0 rest <;> simp [consFirst]

end Stencil.Text
