import Stencil.Value.Equality
import Stencil.Value.Written
import Stencil.Yaml.Scalar
import Stencil.Yaml.Tree

/-! The values of documents. A document is judged level by level: of several faults, the one in
the fewest collections counts, and of those the first. A key is judged as a whole where it
stands. The entries of a mapping have different keys, but replace those that it takes in. -/

namespace Stencil.Yaml

/-- A fault, and how many collections are around the one that shows it. -/
structure Finding where
  depth : Nat
  fault : Fault

abbrev Judgement (α : Type) := Except Finding α

def found {α : Type} (fault : Fault) : Judgement α := .error ⟨0, fault⟩

/-- Seen from the collection around it, unless all is judged at once. -/
def Finding.within (isKey : Bool) (finding : Finding) : Finding :=
  if isKey then finding else ⟨finding.depth + 1, finding.fault⟩

/-- Both judgements, or the finding that counts. -/
def both {α β : Type} : Judgement α → Judgement β → Judgement (α × β)
  | .ok a, .ok b => .ok (a, b)
  | .error a, .ok _ => .error a
  | .ok _, .error b => .error b
  | .error a, .error b => .error (if b.depth < a.depth then b else a)

/-- A sequence as a key does not change any more, and a mapping is no key. -/
def keyOf : Value → Judgement Value
  | .list items => .ok (.tuple items)
  | .mapping _ => found .malformed
  | value => .ok value

/-- What a value shows of itself before its own level is judged. -/
def outline (isKey : Bool) : Judgement Value → Value
  | .error _ => .list []
  | .ok value =>
    if isKey then value
    else
      match value with
      | .list _ => .list []
      | .mapping _ => .mapping []
      | value => value

def isNotNumber : Value → Bool
  | .float .nan => true
  | _ => false

/-- Two parts of keys are one. Here even a not-a-number equals itself. -/
def samePart (a b : Value) : Bool := a.same b || (isNotNumber a && isNotNumber b)

/-- Two keys are one. -/
def sameKey (a b : Value) : Bool :=
  match a, b with
  | .tuple xs, .tuple ys => xs.length == ys.length && (xs.zip ys).all fun (x, y) => samePart x y
  | a, b => samePart a b

/-- The first part of a key that can change. -/
def changeable? : Value → Option Changeable
  | .tuple items =>
    items.findSome? fun
      | .list _ => some .list
      | .mapping _ => some .mapping
      | _ => none
  | _ => none

/-- A key is new among entries. The message about one that is not names both of its values. -/
def checkNew (known : List (Value × Value)) (key value : Value) : Judgement Unit :=
  match known.find? fun entry => sameKey entry.1 key with
  | none => .ok ()
  | some entry =>
    if Value.areWritable [key, value, entry.2] then found .malformed else found .unwritable

/-- A key holds nothing that can change and is new, unless entries may be replaced. -/
def checkKey (replacing : Bool) (known : List (Value × Value)) (key value : Value) :
    Judgement Unit :=
  match changeable? key with
  | some part => found (.changeableKey part)
  | none => if replacing then .ok () else checkNew known key value

/-- Sets the value of a key in its place, or behind all others. -/
def putValue (key value : Value) : List (Value × Value) → List (Value × Value)
  | [] => [(key, value)]
  | entry :: rest =>
    if sameKey entry.1 key then (entry.1, value) :: rest else entry :: putValue key value rest

/-- Entries of which a later one replaces an earlier one with its key. -/
def replaced (entries : List (Value × Value)) : List (Value × Value) :=
  entries.foldl (fun known entry => putValue entry.1 entry.2 known) []

/-- An equals sign is no value, but a key. -/
def Tree.isEqualsSign : Tree → Bool
  | .plain text => text = ['=']
  | _ => false

mutual

/-- The value of a tree, within a key or outside of all. -/
def Tree.judge (isKey : Bool) : Tree → Judgement Value
  | .plain text => (scalar text).mapError (⟨0, ·⟩)
  | .quoted text => .ok (.text (String.ofList text))
  | .sequence items => ((judgeItems isKey items).map .list).mapError (·.within isKey)
  | .mapping taken own =>
    let replacing := !taken.isEmpty
    let judged := both (judgeEntries isKey replacing [] taken) (judgeEntries isKey replacing [] own)
    (judged.map fun (taken, own) => .mapping (if replacing then replaced (taken ++ own) else own))
      |>.mapError (·.within isKey)
  | .mismatched => .error (Finding.within isKey ⟨0, .malformed⟩)

def judgeItems (isKey : Bool) : List Tree → Judgement (List Value)
  | [] => .ok []
  | item :: rest =>
    (both (item.judge isKey) (judgeItems isKey rest)).map fun (value, values) => value :: values

/-- The entries of a mapping behind those that are known. -/
def judgeEntries (isKey replacing : Bool) (known : List (Value × Value)) :
    List (Tree × Tree) → Judgement (List (Value × Value))
  | [] => .ok []
  | (key, content) :: rest => do
    let key ← if key.isEqualsSign then .ok (.text "=") else key.judge true
    let key ← keyOf key
    match content.judge isKey with
    | .error ⟨0, fault⟩ => found fault
    | value =>
      let shown := outline isKey value
      checkKey replacing known key shown
      let (value, entries) ←
        both value (judgeEntries isKey replacing (known ++ [(key, shown)]) rest)
      return (key, value) :: entries

end

def Tree.value (tree : Tree) : Except Fault Value := (tree.judge false).mapError (·.fault)

end Stencil.Yaml
