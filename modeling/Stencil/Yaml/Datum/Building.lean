import Stencil.Yaml.Datum
import Stencil.Yaml.Node
import Stencil.Yaml.Scalar

/-!
# Data from nodes

A mapping takes over the entries of the mappings under its merge sign. No key may stand twice in
a mapping. Of several faults the one met first counts: the collections are filled in rounds from
the outside in, but keys at once, and so is all that stands in a mapping of a document that is to
be written again.
-/

namespace Stencil.Yaml

/-- What is built, or the fault met first with its round. -/
abbrev Built (α : Type) := Except (Nat × Fault) α

namespace Built

def fault {α : Type} (f : Fault) : Built α := .error (0, f)

def both {α β : Type} : Built α → Built β → Built (α × β)
  | .ok a, .ok b => .ok (a, b)
  | .ok _, .error f => .error f
  | .error e, .ok _ => .error e
  | .error e, .error f => .error (if f.1 < e.1 then f else e)

/-- What is built in the next round, or in this one if it is built at once. -/
def later {α : Type} (atOnce : Bool) (b : Built α) : Built α :=
  b.mapError fun e => (e.1 + if atOnce then 0 else 1, e.2)

/-- Whether the fault is one of this round. -/
def now? {α : Type} : Built α → Option Fault
  | .error (0, f) => some f
  | _ => none

end Built

namespace Datum

open Built

/-- A key and a value that are being built. -/
abbrev Pair := Built Datum × Built Datum

/-- The entries of a mapping: those that it takes over from others, and its own. -/
structure Entries where
  merged : List Pair
  own : List Pair

/-- The pairs one after the other; `keys` are those of the earlier ones. -/
def joinPairs (purpose : Purpose) (unique : Bool) (keys : List Datum) :
    List Pair → Built (List (Datum × Datum))
  | [] => .ok []
  | (builtKey, builtValue) :: pairs => do
    let key ← builtKey
    let isMapping := match key with
      | .mapping _ => true
      | _ => false
    if isMapping && purpose == .values then fault .malformed
    if let some f := builtValue.now? then fault f
    if let some f := keyFault? purpose key then fault f
    if unique && isAmong key keys then fault .malformed
    let (value, rest) ← both builtValue (joinPairs purpose unique (key :: keys) pairs)
    return (key, value) :: rest

/-- The entries of a mapping as one list. Its own entries win. -/
def joinEntries (purpose : Purpose) (entries : Entries) : Built (List (Datum × Datum)) :=
  match purpose with
  | .values =>
    if entries.merged.isEmpty then joinPairs purpose true [] entries.own
    else do
      let pairs ← joinPairs purpose false [] (entries.merged ++ entries.own)
      return pairs.foldl (fun all (key, value) => insertEntry key value all) []
  | .rewriting => do
    let own ← joinPairs purpose true [] entries.own
    let merged ← joinPairs purpose false [] entries.merged
    return merged.foldl
      (fun all (key, value) => if isAmong key (all.map (·.1)) then all else all ++ [(key, value)])
      own

/-- Whether a key is the merge sign. -/
def isMergeSign : Node → Bool
  | .scalar .plain s _ => s == text "<<"
  | _ => false

/-- The key that a node makes. The sign of a value is a text here. -/
def buildKey (built : Built Datum) : Node → Built Datum
  | .scalar .plain ['='] _ => .ok (.scalar (.str ['=']))
  | _ => built

/-- Puts the entries of a mapping in front of, or behind, those of the mappings that follow it in
a list under a merge sign: of a key in several of them the first counts. -/
def mergeInto (purpose : Purpose) (pairs others : List Pair) : List Pair :=
  match purpose with
  | .values => others ++ pairs
  | .rewriting => pairs ++ others

/-- The pairs that a mapping under a merge sign gives. -/
def pairsOf (purpose : Purpose) (entries : Entries) : Built (List Pair) :=
  match purpose with
  | .values => .ok (entries.merged ++ entries.own)
  | .rewriting => do
    return (← joinEntries purpose entries).map fun (key, value) => (.ok key, .ok value)

mutual

def build (purpose : Purpose) (atOnce : Bool) : Node → Built Datum
  | .scalar .plain s _ => ((resolve purpose s).map scalar).mapError fun f => (0, f)
  | .scalar _ s _ => .ok (scalar (.str s))
  | .fresh v _ => .ok (scalar v)
  | .list _ items _ _ => later atOnce ((buildItems purpose atOnce items).map list)
  | .mapping _ entries _ _ =>
    later atOnce do
      let found ← buildEntries purpose (atOnce || purpose == .rewriting) false entries
      return mapping (← joinEntries purpose found)

def buildItems (purpose : Purpose) (atOnce : Bool) : List Node → Built (List Datum)
  | [] => .ok []
  | item :: items =>
    (both (build purpose atOnce item) (buildItems purpose atOnce items)).map
      fun (datum, data) => datum :: data

/-- Builds the entries of a mapping. A second merge sign is refused once the first has given
entries. -/
def buildEntries (purpose : Purpose) (atOnce merged : Bool) : List (Node × Node) → Built Entries
  | [] => .ok ⟨[], []⟩
  | (key, value) :: entries =>
    if isMergeSign key then do
      if merged then fault .malformed
      let (pairs, merged) ← buildMerged purpose atOnce value
      let rest ← buildEntries purpose atOnce merged entries
      return { rest with merged := pairs ++ rest.merged }
    else do
      let rest ← buildEntries purpose atOnce merged entries
      let pair := (buildKey (build purpose true key) key, build purpose atOnce value)
      return { rest with own := pair :: rest.own }

/-- Builds what stands under a merge sign, a mapping or a list of mappings, and tells whether it
counts as a merge. -/
def buildMerged (purpose : Purpose) (atOnce : Bool) : Node → Built (List Pair × Bool)
  | .mapping _ entries _ _ => do
    let pairs ← pairsOf purpose (← buildEntries purpose atOnce false entries)
    return (pairs, purpose == .rewriting || !pairs.isEmpty)
  | .list _ items _ _ => do
    let pairs ← buildMergedItems purpose atOnce items
    return (pairs, if purpose == .rewriting then !items.isEmpty else !pairs.isEmpty)
  | _ => fault .malformed

def buildMergedItems (purpose : Purpose) (atOnce : Bool) : List Node → Built (List Pair)
  | [] => .ok []
  | .mapping _ entries _ _ :: items => do
    let pairs ← pairsOf purpose (← buildEntries purpose atOnce false entries)
    return mergeInto purpose pairs (← buildMergedItems purpose atOnce items)
  | _ :: _ => fault .malformed

end

def ofNode (purpose : Purpose) (node : Node) : Except Fault Datum :=
  (build purpose false node).mapError (·.2)

end Datum

end Stencil.Yaml
