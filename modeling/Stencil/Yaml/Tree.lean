import Stencil.Yaml.Token

/-! Documents as trees of scalars, sequences and mappings, read from tokens. The depth that bounds
the recursion exceeds the number of tokens, of which each three steps take at least one. -/

namespace Stencil.Yaml

/-- A quoted scalar is text, whatever it looks like. -/
inductive Tree where
  | plain (text : List Char)
  | quoted (text : List Char)
  | sequence (items : List Tree)
  /-- A mapping, with the entries that it takes in from others in front of its own. -/
  | mapping (taken own : List (Tree × Tree))
  /-- A mapping that cannot take in what it should. -/
  | mismatched

namespace Tree

/-- What is left out, for instance behind the colon of a key. -/
def empty : Tree := .plain []

/-! ### Mappings that take in others -/

/-- Two less-than signs as a key stand for the entries of another mapping, or of several. -/
def isMergeKey : Tree → Bool
  | plain text => text = ['<', '<']
  | _ => false

def entries? : Tree → Option (List (Tree × Tree))
  | mapping taken own => some (taken ++ own)
  | _ => none

/-- The entries of a mapping, or of all in a sequence, the last one first. -/
def givenEntries? : Tree → Option (List (Tree × Tree))
  | sequence items => (items.reverse.mapM entries?).map List.flatten
  | tree => tree.entries?

/-- What a mapping takes in. That is done once, unless there was nothing to take in. -/
def takenEntries? (taken : List (Tree × Tree)) :
    List (Tree × Tree) → Option (List (Tree × Tree))
  | [] => some taken
  | (key, value) :: rest =>
    if !key.isMergeKey then takenEntries? taken rest
    else if !taken.isEmpty then none
    else
      match value.givenEntries? with
      | none => none
      | some given => takenEntries? given rest

/-- The mapping that is written with these entries. -/
def ofEntries (entries : List (Tree × Tree)) : Tree :=
  match takenEntries? [] entries with
  | none => mismatched
  | some taken => mapping taken (entries.filter fun entry => !entry.1.isMergeKey)

end Tree

/-! ### Reading -/

/-- The next token is not one that belongs here. -/
def unexpected {α : Type} : List Token → Except Fault α
  | .broken fault :: _ => .error fault
  | _ => .error .malformed

/-- One of the given tokens comes next. -/
def atOneOf (expected : List Token) (tokens : List Token) : Bool :=
  tokens.head?.any expected.contains

/-- Where a node stands: between brackets, in a block, or beside the colon of a block mapping,
where the hyphens of a sequence need no indentation. -/
inductive Site where
  | flow
  | block
  | entry
deriving DecidableEq, Repr

/-- The comma between two parts of a collection. -/
def skipComma (isFirst : Bool) (tokens : List Token) : Except Fault (List Token) :=
  if isFirst then .ok tokens
  else
    match tokens with
    | .comma :: rest => .ok rest
    | _ => unexpected tokens

mutual

def node (site : Site) : Nat → List Token → Except Fault (Tree × List Token)
  | 0, _ => .error .malformed
  | depth + 1, tokens =>
    match tokens with
    | .plain text :: rest => .ok (.plain text, rest)
    | .quoted text :: rest => .ok (.quoted text, rest)
    | .openList :: rest => do
      let (items, rest) ← listItems true depth rest
      return (.sequence items, rest)
    | .openMapping :: rest => do
      let (entries, rest) ← mappingEntries true depth rest
      return (.ofEntries entries, rest)
    | .blockSequence :: rest =>
      if site = .flow then .error .malformed
      else do
        let (items, rest) ← blockItems depth rest
        return (.sequence items, rest)
    | .blockMapping :: rest =>
      if site = .flow then .error .malformed
      else do
        let (entries, rest) ← blockEntries depth rest
        return (.ofEntries entries, rest)
    | .item :: _ =>
      if site = .entry then do
        let (items, rest) ← looseItems depth tokens
        return (.sequence items, rest)
      else .error .malformed
    | _ => unexpected tokens
termination_by structural depth => depth

/-- A node, or nothing where one of the given tokens follows. -/
def nodeBefore (ends : List Token) (site : Site) :
    Nat → List Token → Except Fault (Tree × List Token)
  | 0, _ => .error .malformed
  | depth + 1, tokens =>
    if atOneOf ends tokens then .ok (.empty, tokens) else node site depth tokens
termination_by structural depth => depth

/-- A colon and the value behind it, or nothing. -/
def valueBefore (ends : List Token) (site : Site) :
    Nat → List Token → Except Fault (Tree × List Token)
  | 0, _ => .error .malformed
  | depth + 1, tokens =>
    match tokens with
    | .value :: rest => nodeBefore ends site depth rest
    | _ => .ok (.empty, tokens)
termination_by structural depth => depth

/-- The items up to the closing bracket. An item with a key is a mapping of one entry. -/
def listItems (isFirst : Bool) : Nat → List Token → Except Fault (List Tree × List Token)
  | 0, _ => .error .malformed
  | depth + 1, tokens => do
    if atOneOf [.closeList] tokens then return ([], tokens.drop 1)
    let tokens ← skipComma isFirst tokens
    match tokens with
    | .closeList :: rest => return ([], rest)
    | .key :: rest =>
      let (key, rest) ← nodeBefore [.value, .comma, .closeList] .flow depth rest
      let (value, rest) ← valueBefore [.comma, .closeList] .flow depth rest
      let (items, rest) ← listItems false depth rest
      return (.ofEntries [(key, value)] :: items, rest)
    | _ =>
      let (item, rest) ← node .flow depth tokens
      let (items, rest) ← listItems false depth rest
      return (item :: items, rest)
termination_by structural depth => depth

/-- The entries up to the closing brace. A node without a colon is a key. -/
def mappingEntries (isFirst : Bool) :
    Nat → List Token → Except Fault (List (Tree × Tree) × List Token)
  | 0, _ => .error .malformed
  | depth + 1, tokens => do
    if atOneOf [.closeMapping] tokens then return ([], tokens.drop 1)
    let tokens ← skipComma isFirst tokens
    match tokens with
    | .closeMapping :: rest => return ([], rest)
    | .key :: rest =>
      let (key, rest) ← nodeBefore [.value, .comma, .closeMapping] .flow depth rest
      let (value, rest) ← valueBefore [.comma, .closeMapping] .flow depth rest
      let (entries, rest) ← mappingEntries false depth rest
      return ((key, value) :: entries, rest)
    | .value :: _ =>
      let (value, rest) ← valueBefore [.comma, .closeMapping] .flow depth tokens
      let (entries, rest) ← mappingEntries false depth rest
      return ((.empty, value) :: entries, rest)
    | _ =>
      let (key, rest) ← node .flow depth tokens
      let (entries, rest) ← mappingEntries false depth rest
      return ((key, .empty) :: entries, rest)
termination_by structural depth => depth

/-- The items of a block sequence up to its end. -/
def blockItems : Nat → List Token → Except Fault (List Tree × List Token)
  | 0, _ => .error .malformed
  | depth + 1, tokens =>
    match tokens with
    | .blockEnd :: rest => .ok ([], rest)
    | .item :: rest => do
      let (item, rest) ← nodeBefore [.item, .blockEnd] .block depth rest
      let (items, rest) ← blockItems depth rest
      return (item :: items, rest)
    | _ => unexpected tokens
termination_by structural depth => depth

/-- The items of a sequence that has no end of its own. -/
def looseItems : Nat → List Token → Except Fault (List Tree × List Token)
  | 0, _ => .error .malformed
  | depth + 1, tokens =>
    match tokens with
    | .item :: rest => do
      let (item, rest) ← nodeBefore [.item, .key, .value, .blockEnd] .block depth rest
      let (items, rest) ← looseItems depth rest
      return (item :: items, rest)
    | _ => .ok ([], tokens)
termination_by structural depth => depth

/-- The entries of a block mapping up to its end. -/
def blockEntries : Nat → List Token → Except Fault (List (Tree × Tree) × List Token)
  | 0, _ => .error .malformed
  | depth + 1, tokens =>
    match tokens with
    | .blockEnd :: rest => .ok ([], rest)
    | .key :: rest => do
      let (key, rest) ← nodeBefore [.key, .value, .blockEnd] .entry depth rest
      let (value, rest) ← valueBefore [.key, .value, .blockEnd] .entry depth rest
      let (entries, rest) ← blockEntries depth rest
      return ((key, value) :: entries, rest)
    | .value :: _ => do
      let (value, rest) ← valueBefore [.key, .value, .blockEnd] .entry depth tokens
      let (entries, rest) ← blockEntries depth rest
      return ((.empty, value) :: entries, rest)
    | _ => unexpected tokens
termination_by structural depth => depth

end

/-- The end of the text, perhaps behind a mark that ends the document. -/
def readEnd : List Token → Except Fault Unit
  | .finish :: _ => .ok ()
  | .documentEnd :: .finish :: _ => .ok ()
  | .documentEnd :: rest => unexpected rest
  | tokens => unexpected tokens

/-- Reads tokens as one document. A document without content is an empty scalar. -/
def Tree.ofTokens (tokens : List Token) : Except Fault Tree := do
  let depth := 4 * tokens.length + 8
  let (tree, rest) ←
    match tokens with
    | .documentStart :: rest =>
      nodeBefore [.documentStart, .documentEnd, .finish] .block depth rest
    | _ => nodeBefore [.finish] .block depth tokens
  readEnd rest
  return tree

end Stencil.Yaml
