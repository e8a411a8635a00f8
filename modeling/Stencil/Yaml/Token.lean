import Stencil.Yaml.Fault

/-! Tokens: marks, scalars, and the bounds of block collections, which indentation sets. -/

namespace Stencil.Yaml

inductive Token where
  | plain (text : List Char)
  | quoted (text : List Char)
  /-- In front of a key, with a question mark or none. -/
  | key
  /-- The colon in front of a value. -/
  | value
  /-- The hyphen in front of an item. -/
  | item
  | blockSequence
  | blockMapping
  | blockEnd
  | openList
  | closeList
  | openMapping
  | closeMapping
  | comma
  | documentStart
  | documentEnd
  /-- The end of the text. -/
  | finish
  /-- No token starts here. -/
  | broken (fault : Fault)
deriving DecidableEq, Repr

end Stencil.Yaml
