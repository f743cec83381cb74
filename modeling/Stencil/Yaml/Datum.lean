import Stencil.Value
import Stencil.Yaml.Fault

/-!
# Data

What a document writes, before its keys have become texts: any scalar can be a key, and so can a
list or a mapping without collections in it.
-/

namespace Stencil.Yaml

/-- A scalar, a list, or a mapping with keys of any kind. -/
inductive Datum where
  | scalar (v : Value)
  | list (items : List Datum)
  | mapping (entries : List (Datum × Datum))

namespace Datum

/-! ## Keys -/

mutual

/-- How a key is shown: a list between parentheses, a mapping as its entries in order. -/
def shown : Datum → Text
  | scalar v => v.shown
  | list [item] => [chr '('] ++ shown item ++ text ",)"
  | list items => [chr '('] ++ shownItems items ++ [chr ')']
  | mapping [] => text "ordereddict()"
  | mapping entries => text "ordereddict([" ++ shownEntries entries ++ text "])"

def shownItems : List Datum → Text
  | [] => []
  | [item] => shown item
  | item :: items => shown item ++ text ", " ++ shownItems items

def shownEntries : List (Datum × Datum) → Text
  | [] => []
  | [(key, value)] => [chr '('] ++ shown key ++ text ", " ++ shown value ++ [chr ')']
  | (key, value) :: entries =>
    [chr '('] ++ shown key ++ text ", " ++ shown value ++ text "), " ++ shownEntries entries

end

/-- The text of a key: a text as it is, all else as shown. -/
def label : Datum → Text
  | scalar v => v.label
  | key => shown key

mutual

/-- Why a key cannot be shown, if it cannot. -/
def shownFault? : Datum → Option ConversionError
  | scalar v => v.shownFault?
  | list items => shownItemsFault? items
  | mapping entries => shownEntriesFault? entries

def shownItemsFault? : List Datum → Option ConversionError
  | [] => none
  | item :: items => (shownFault? item).or (shownItemsFault? items)

def shownEntriesFault? : List (Datum × Datum) → Option ConversionError
  | [] => none
  | (key, value) :: entries =>
    (shownFault? key).or ((shownFault? value).or (shownEntriesFault? entries))

end

/-- Where a scalar stands among the numbers, if it is one; false and true are zero and one. -/
def rank? : Value → Option (Int × Int)
  | .bool b => some (0, if b then Binary64.one else 0)
  | .int n => some (0, n * Binary64.one)
  | .float x => x.rank?
  | _ => none

/-- Whether two scalars are the same key: numbers count by their value, and what is no number
counts as one key too. -/
def sameScalar (a b : Value) : Bool :=
  match rank? a, rank? b with
  | some x, some y => x == y
  | none, none =>
    match a, b with
    | .null, .null | .float .nan, .float .nan => true
    | .str s, .str t => s == t
    | _, _ => false
  | _, _ => false

mutual

def sameKey : Datum → Datum → Bool
  | scalar a, scalar b => sameScalar a b
  | list as, list bs => sameItems as bs
  | mapping as, mapping bs => sameEntries as bs
  | _, _ => false

def sameItems : List Datum → List Datum → Bool
  | [], [] => true
  | a :: as, b :: bs => sameKey a b && sameItems as bs
  | _, _ => false

def sameEntries : List (Datum × Datum) → List (Datum × Datum) → Bool
  | [], [] => true
  | (k, v) :: as, (l, w) :: bs => sameKey k l && sameKey v w && sameEntries as bs
  | _, _ => false

end

/-- Whether a key is in a list of keys. -/
def isAmong (key : Datum) (keys : List Datum) : Bool := keys.any (sameKey key)

/-- Sets an entry: a key that is there keeps its place, a new one goes last. -/
def insertEntry (key value : Datum) : List (Datum × Datum) → List (Datum × Datum)
  | [] => [(key, value)]
  | (k, v) :: entries =>
    if sameKey k key then (k, value) :: entries else (k, v) :: insertEntry key value entries

/-- The first collection in a list, if there is one: whether it is a list. -/
def collectionIn? : List Datum → Option Bool
  | [] => none
  | list _ :: _ => some true
  | mapping _ :: _ => some false
  | scalar _ :: items => collectionIn? items

/-- Why a datum cannot be a key, if it cannot. A mapping is one only if the document is to be
written again, for then its order is known. -/
def keyFault? (purpose : Purpose) : Datum → Option Fault
  | scalar _ => none
  | list items => (collectionIn? items).map (.nestedKey purpose)
  | mapping entries => (collectionIn? (entries.map (·.2))).map (.nestedKey purpose)

/-! ## Values -/

mutual

/-- The value of a datum, with the keys as texts. -/
def toValue : Datum → Value
  | scalar v => v
  | list items => .list (toValues items)
  | mapping entries => .object (Fields.ofPairs (toFields entries))

def toValues : List Datum → List Value
  | [] => []
  | item :: items => toValue item :: toValues items

def toFields : List (Datum × Datum) → List (Text × Value)
  | [] => []
  | (key, value) :: entries => (label key, toValue value) :: toFields entries

end

/-! ## Trees -/

def key : Datum → YamlKey
  | scalar (.str s) => .text s
  | key =>
    match shownFault? key with
    | some e => .unlabelled e
    | none => .other (label key)

mutual

def toTree : Datum → YamlTree
  | scalar v => .ofValue v
  | list items => .list (toTrees items)
  | mapping entries => .mapping (toEntries entries)

def toTrees : List Datum → List YamlTree
  | [] => []
  | item :: items => toTree item :: toTrees items

def toEntries : List (Datum × Datum) → List (YamlKey × YamlTree)
  | [] => []
  | (k, value) :: entries => (key k, toTree value) :: toEntries entries

end

end Datum

end Stencil.Yaml
