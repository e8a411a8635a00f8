/-! Lines of a text. A line ends with a line feed, together with one carriage return directly
before it; a carriage return on its own is part of its line. -/

namespace Stencil.Text

/-- The lines of a text without their line ends; there is always one more than line ends. -/
def lines : List Char → List (List Char)
  | [] => [[]]
  | '\r' :: '\n' :: rest => [] :: lines rest
  | '\n' :: rest => [] :: lines rest
  | c :: rest =>
    match lines rest with
    | [] => [[c]]
    | line :: more => (c :: line) :: more

/-- Every line end, also a lone carriage return, as one line feed. -/
def unifyLineEnds : List Char → List Char
  | [] => []
  | '\r' :: '\n' :: rest => '\n' :: unifyLineEnds rest
  | '\r' :: rest => '\n' :: unifyLineEnds rest
  | c :: rest => c :: unifyLineEnds rest

/-- The text without the carriage returns and line feeds at its end. -/
def dropFinalLineEnds (text : List Char) : List Char :=
  (text.reverse.dropWhile fun c => c == '\r' || c == '\n').reverse

end Stencil.Text
