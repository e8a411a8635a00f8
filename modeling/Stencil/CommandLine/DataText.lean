import Stencil.Text.Lines
import Stencil.Text.Utf8

/-! The text of a data file. It is asked for in portions of characters, two of them at the start,
and its bytes are made into text in blocks, as far as portions need them. Bytes that are no text
are noticed with their block, so a document may turn out to be broken before that. -/

namespace Stencil.CommandLine

open Text

/-- How many characters are asked for at a time. -/
def portionSize : Nat := 4096

/-- How many bytes are made into text at a time, at least. -/
def leastBlockSize : Nat := 8192

/-- The text of the first bytes, with all line ends as line feeds. A carriage return at their end
waits for what follows. -/
def frontText (bytes : List UInt8) (count : Nat) : List Char :=
  let (text, _) := readUtf8 (bytes.take count)
  unifyLineEnds (if text.getLast? = some '\r' then text.dropLast else text)

/-- The size of the block behind a block from `start` to `stop`: enough for the present portion if
its characters take as many bytes as those of the last block. -/
def nextBlockSize (bytes : List UInt8) (start stop : Nat) : Nat :=
  let front := (frontText bytes stop).length
  let last := front - (frontText bytes start).length
  let missing := portionSize - front % portionSize
  max leastBlockSize (if last = 0 then 0 else (stop - start) * missing / last)

/-- The start of the block with which a byte is noticed, from a block of a given start and size on.
The end of the bytes has a block of its own. The last argument bounds the number of blocks. -/
def blockStart (bytes : List UInt8) (byte : Nat) (start size : Nat) : Nat → Nat
  | 0 => start
  | blocks + 1 =>
    let stop := min (start + size) bytes.length
    if byte < stop || start = bytes.length then start
    else blockStart bytes byte stop (nextBlockSize bytes start stop) blocks

/-- The byte with which an error is noticed. -/
def noticedAt (bytes : List UInt8) (error : EncodingError) : Nat :=
  match error.fault with
  | .start => error.position
  | .continuation => error.position + error.count
  | .incomplete => bytes.length

/-- What is read of a data file before the first error is noticed, with that error. -/
structure DataText where
  text : List Char
  error : Option EncodingError

namespace DataText

def isWhole (data : DataText) : Bool := data.error.isNone

/-- The place of an error is counted from the start of its block, or from the start of a character
that reaches into it. -/
def ofBytes (bytes : List UInt8) : DataText :=
  match readUtf8 bytes with
  | (text, none) => ⟨unifyLineEnds text, none⟩
  | (_, some error) =>
    let start := blockStart bytes (noticedAt bytes error) 0 leastBlockSize bytes.length
    let origin := ((readUtf8 (bytes.take start)).2.map (·.position)).getD start
    let front := frontText bytes start
    let portions := front.length / portionSize
    ⟨if portions < 2 then [] else front.take (portions * portionSize),
      some { error with position := error.position - origin }⟩

end DataText

end Stencil.CommandLine
