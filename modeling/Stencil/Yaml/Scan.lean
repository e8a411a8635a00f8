import Stencil.Yaml.Plain
import Stencil.Yaml.Quoted
import Stencil.Yaml.Token

/-! From text to tokens. Whether a scalar or a bracket starts a key shows only at the colon behind
it, which has to follow in the same line and soon enough; until then the tokens since its start are
held back. Anchors, aliases, tags, directives and block scalars are not read. -/

namespace Stencil.Yaml

/-- Where a key may have started. -/
structure Candidate where
  /-- How many tokens come before it. -/
  number : Nat
  mark : Mark
  /-- It stands where only a key can stand. -/
  isNeeded : Bool

inductive Bracket where
  | list
  | mapping
deriving DecidableEq, Repr

/-- What is known between two brackets, or outside of all. -/
structure Level where
  bracket : Option Bracket
  candidate : Option Candidate

structure Scanner where
  /-- The text is not only a part of the whole. -/
  isWhole : Bool
  place : Place
  /-- The columns of the open block collections, the innermost first. -/
  columns : List Nat
  level : Level
  /-- The levels around the present one, the innermost first. -/
  outer : List Level
  /-- A key or the hyphen of an item may start here. -/
  keyAllowed : Bool
  /-- How many tokens are known for sure. -/
  released : Nat
  /-- The tokens behind those, in front of which a key may still turn out to start. -/
  held : List Token
  finished : Bool

/-- The distance from its start at which the colon of a key may stand at most. -/
def longestKey : Nat := 1024

/-- The colon of the key can still follow. -/
def Candidate.isOpenAt (candidate : Candidate) (mark : Mark) : Bool :=
  candidate.mark.line = mark.line && mark.offset - candidate.mark.offset ≤ longestKey

/-- Gives up a candidate whose colon can no longer follow. -/
def Level.expire (level : Level) (mark : Mark) : Except Fault Level :=
  match level.candidate with
  | none => .ok level
  | some candidate =>
    if candidate.isOpenAt mark then .ok level
    else if candidate.isNeeded then .error .malformed
    else .ok { level with candidate := none }

namespace Scanner

def start (isWhole : Bool) (text : List Char) : Scanner :=
  ⟨isWhole, .start text, [], ⟨none, none⟩, [], true, 0, [], false⟩

/-- Refuses to look beyond a part of a text. -/
def lookAhead (self : Scanner) (rest : List Char) : Except Fault Unit :=
  if !self.isWhole && rest.isEmpty then .error .cut else .ok ()

def inFlow (self : Scanner) : Bool := self.level.bracket.isSome

/-- The least column for what belongs to the innermost block collection. -/
def least (self : Scanner) : Nat :=
  match self.columns with
  | [] => 0
  | column :: _ => column + 1

/-- Adds a token at the present place. -/
def hold (self : Scanner) (token : Token) : Scanner :=
  { self with held := self.held ++ [token] }

/-- Adds a token of so many characters. -/
def take (self : Scanner) (token : Token) (count : Nat) : Scanner :=
  { self.hold token with place := self.place.drop count }

/-! ### Keys -/

/-- Gives up candidates whose colon can no longer follow. -/
def expire (self : Scanner) : Except Fault Scanner := do
  let level ← self.level.expire self.place.mark
  let outer ← self.outer.mapM fun level => level.expire self.place.mark
  return { self with level, outer }

/-- Gives up the candidate of the present level, since something else than its colon follows. -/
def forgetKey (self : Scanner) : Except Fault Scanner :=
  if self.level.candidate.any (·.isNeeded) then .error .malformed
  else .ok { self with level := { self.level with candidate := none } }

/-- Takes note that a key may start here. -/
def noteKey (self : Scanner) : Except Fault Scanner :=
  if self.keyAllowed then do
    let self ← self.forgetKey
    let candidate : Candidate :=
      ⟨self.released + self.held.length, self.place.mark,
        !self.inFlow && self.columns.head? = some self.place.column⟩
    return { self with level := { self.level with candidate := some candidate } }
  else .ok self

/-! ### Block collections -/

/-- Ends the block collections that stand in columns to the right of the given one, or all. -/
def closeBlocks (self : Scanner) (column : Option Nat) : Scanner :=
  if self.inFlow then self
  else
    let ended := self.columns.takeWhile fun other => column.all (· < other)
    { self with
      columns := self.columns.drop ended.length,
      held := self.held ++ List.replicate ended.length .blockEnd }

/-- Starts a block collection in the present column, unless one stands there already. -/
def openBlock (self : Scanner) (token : Token) : Scanner :=
  if !self.inFlow && self.least ≤ self.place.column then
    { self.hold token with columns := self.place.column :: self.columns }
  else self

/-- A mark in front of an item or a key, which starts a block collection if it is the first. -/
def blockMark (self : Scanner) (collection token : Token) (keyAllowed : Bool) :
    Except Fault Scanner :=
  if !self.inFlow && !self.keyAllowed then .error .malformed
  else do
    let self ← (self.openBlock collection).forgetKey
    return { self.take token 1 with keyAllowed }

/-! ### Tokens -/

/-- The end of the text. -/
def finish (self : Scanner) : Except Fault Scanner := do
  let self ← (self.closeBlocks none).forgetKey
  return { self.hold .finish with
    keyAllowed := false,
    level := ⟨none, none⟩,
    outer := [],
    finished := true }

def documentMark (self : Scanner) (token : Token) : Except Fault Scanner := do
  let self ← (self.closeBlocks none).forgetKey
  return { self.take token 3 with keyAllowed := false }

def openBracket (self : Scanner) (bracket : Bracket) (token : Token) : Except Fault Scanner := do
  let self ← self.noteKey
  return { self.take token 1 with
    keyAllowed := true,
    level := ⟨some bracket, none⟩,
    outer := self.level :: self.outer }

/-- A closing bracket; one that closes nothing is left to the reader of the tokens. -/
def closeBracket (self : Scanner) (token : Token) : Except Fault Scanner := do
  let self ← self.forgetKey
  let self := { self.take token 1 with keyAllowed := false }
  match self.outer with
  | [] => return self
  | level :: outer => return { self with level, outer }

def comma (self : Scanner) : Except Fault Scanner := do
  let self ← self.forgetKey
  return { self.take .comma 1 with keyAllowed := true }

/-- A colon makes the candidate of its level a key, which may be the first of a block mapping.
Without a candidate, the key is empty or has a mark of its own. -/
def colon (self : Scanner) : Except Fault Scanner :=
  match self.level.candidate with
  | none => self.blockMark .blockMapping .value !self.inFlow
  | some candidate =>
    let column := candidate.mark.column
    let isFirst := !self.inFlow && self.least ≤ column
    let index := candidate.number - self.released
    let front : List Token := if isFirst then [.blockMapping, .key] else [.key]
    let self := { self with
      held := self.held.take index ++ front ++ self.held.drop index,
      columns := if isFirst then column :: self.columns else self.columns,
      level := { self.level with candidate := none } }
    .ok { self.take .value 1 with keyAllowed := false }

/-- A colon counts in front of a gap. Between braces it also counts elsewhere, unless another colon
was the last of the tokens held back. -/
def atValue (self : Scanner) (behind : List Char) : Bool :=
  atGap behind || (self.level.bracket = some .mapping && self.held.getLast? != some .value)

def quotedScalar (self : Scanner) (read : Place → Except Fault (List Char × Place)) :
    Except Fault Scanner := do
  let self ← self.noteKey
  let (text, place) ← read self.place
  return { self.hold (.quoted text) with place, keyAllowed := false }

/-- A plain scalar takes the white space behind it, so that a line end there may let a key start
even between brackets. -/
def plainScalar (self : Scanner) : Except Fault Scanner := do
  let self ← self.noteKey
  let (text, place, passed) := self.place.plain self.inFlow self.least
  return { self.hold (.plain text) with place, keyAllowed := passed }

/-- Reads on at a character that starts a token. -/
def step (self : Scanner) (c : Char) (rest : List Char) : Except Fault Scanner :=
  let inFlow := self.inFlow
  if self.place.column = 0 && atDocumentMark (c :: rest) then
    self.documentMark (if c = '-' then .documentStart else .documentEnd)
  else if c = '[' then self.openBracket .list .openList
  else if c = '\x7b' then self.openBracket .mapping .openMapping
  else if c = ']' then self.closeBracket .closeList
  else if c = '\x7d' then self.closeBracket .closeMapping
  else if c = ',' then self.comma
  else if c = '"' then self.quotedScalar Place.doubleQuoted
  else if c = '\'' then self.quotedScalar Place.singleQuoted
  else do
    self.lookAhead rest
    if c = '-' && atGap rest then self.blockMark .blockSequence .item true
    else if c = '?' && (inFlow || atGap rest) then self.blockMark .blockMapping .key !inFlow
    else if c = ':' && self.atValue rest then self.colon
    else if startsPlain (c :: rest) then self.plainScalar
    else .error .malformed

/-- Reads the next token, with those that indentation puts in front of it. -/
def next (self : Scanner) : Except Fault Scanner := do
  let (place, passed) := self.place.skip self.inFlow
  self.lookAhead place.rest
  let self := { self with place, keyAllowed := self.keyAllowed || (passed && !self.inFlow) }
  let self ← self.expire
  match place.rest with
  | [] => self.finish
  | c :: rest =>
    let self ← (self.closeBlocks (some place.column)).step c rest
    self.lookAhead self.place.rest
    self.expire

/-- The first of all candidates. -/
def firstCandidate (self : Scanner) : Option Candidate :=
  (self.level :: self.outer).reverse.findSome? (·.candidate)

/-- The tokens in front of which no key can start any more, and the state without them. -/
def release (self : Scanner) : List Token × Scanner :=
  let count :=
    match self.firstCandidate with
    | none => self.held.length
    | some candidate => candidate.number - self.released
  (self.held.take count,
    { self with released := self.released + count, held := self.held.drop count })

end Scanner

/-- The tokens of a text up to its end, or up to a place where none starts. The first argument
exceeds the length of the text, of which each step takes at least one character. -/
def tokensFrom : Nat → Scanner → List Token
  | 0, _ => [.broken .malformed]
  | steps + 1, scanner =>
    match scanner.next with
    | .error fault => [.broken fault]
    | .ok scanner =>
      let (ready, scanner) := scanner.release
      if scanner.finished then ready else ready ++ tokensFrom steps scanner

/-- The tokens of a text, or of a part of one, which is cut at its end. -/
def tokens (isWhole : Bool) (text : List Char) : List Token :=
  tokensFrom (text.length + 2) (.start isWhole text)

end Stencil.Yaml
