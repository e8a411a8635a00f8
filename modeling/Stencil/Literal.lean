/-! String literals of holes: text between single quotes, in which a quote is written twice. -/

namespace Stencil.Literal

/-- Every quote twice. -/
def double : List Char → List Char
  | [] => []
  | c :: rest => if c = '\'' then '\'' :: '\'' :: double rest else c :: double rest

/-- Every pair of quotes as one, from the left. -/
def undouble : List Char → List Char
  | [] => []
  | '\'' :: '\'' :: rest => '\'' :: undouble rest
  | c :: rest => c :: undouble rest

def encoded (text : List Char) : List Char := '\'' :: double text ++ ['\'']

def encode (text : String) : String := String.ofList (encoded text.toList)

/-- The text of a literal: its first and last characters are dropped, whatever they are. -/
def decoded (literal : List Char) : List Char := undouble (literal.drop 1).dropLast

def decode (literal : String) : String := String.ofList (decoded literal.toList)

/-- The number of characters behind an opening quote, up to the closing quote and with it. A
pair of quotes does not close. -/
def closing : List Char → Option Nat
  | [] => none
  | '\'' :: '\'' :: rest => (closing rest).map (· + 2)
  | '\'' :: _ => some 1
  | _ :: rest => (closing rest).map (· + 1)

theorem undouble_double (text : List Char) : undouble (double text) = text := by
  induction text with
  | nil => rfl
  | cons c rest ih =>
    by_cases quote : c = '\''
    · subst quote
      simp [double, undouble, ih]
    · have step : undouble (c :: double rest) = c :: undouble (double rest) := by
        rw [undouble]
        intro _ same
        exact absurd same quote
      simp [double, quote, step, ih]

theorem decoded_encoded (text : List Char) : decoded (encoded text) = text := by
  simp [decoded, encoded, undouble_double]

theorem decode_encode (text : String) : decode (encode text) = text := by
  simp [decode, encode, decoded_encoded]

end Stencil.Literal
