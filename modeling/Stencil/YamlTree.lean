import Stencil.Value

/-!
# What documents hold

A document holds scalars, lists and mappings. Any scalar can be a key, and so can some collections,
but all that is asked of a key is whether it is a text, and the text that it gives.
-/

namespace Stencil

/-- A key of a mapping: a text, or anything else by the text that it gives, if it gives one. -/
inductive YamlKey where
  | text (s : Text)
  | other (label : Text)
  | unlabelled (e : ConversionError)
  deriving DecidableEq

namespace YamlKey

/-- The text of a key; one that gives none counts as empty. -/
def label : YamlKey → Text
  | text s | other s => s
  | unlabelled _ => []

def fault? : YamlKey → Option ConversionError
  | unlabelled e => some e
  | _ => none

end YamlKey

/-- What a document holds. An aliased collection that stands in itself is not unrolled: it is
`again` where it comes back. What is no scalar of the core rules, such as a date, is known by its
text. -/
inductive YamlTree where
  | null
  | bool (b : Bool)
  | int (n : Int)
  | float (x : Binary64)
  | str (s : Text)
  | sign (s : Text)
  | list (items : List YamlTree)
  | mapping (entries : List (YamlKey × YamlTree))
  | again

namespace YamlTree

/-! ## Equality -/

mutual

def same : YamlTree → YamlTree → Bool
  | null, null => true
  | bool a, bool b => a == b
  | int m, int n => m == n
  | float x, float y => x == y
  | str s, str t => s == t
  | sign s, sign t => s == t
  | list ts, list us => sameItems ts us
  | mapping es, mapping fs => sameEntries es fs
  | again, again => true
  | _, _ => false

def sameItems : List YamlTree → List YamlTree → Bool
  | [], [] => true
  | t :: ts, u :: us => same t u && sameItems ts us
  | _, _ => false

def sameEntries : List (YamlKey × YamlTree) → List (YamlKey × YamlTree) → Bool
  | [], [] => true
  | (k, t) :: es, (l, u) :: fs => k == l && same t u && sameEntries es fs
  | _, _ => false

end

mutual

theorem same_iff (t u : YamlTree) : same t u = true ↔ t = u := by
  cases t <;> cases u <;> simp [same, sameItems_iff, sameEntries_iff]

theorem sameItems_iff (ts us : List YamlTree) : sameItems ts us = true ↔ ts = us := by
  cases ts <;> cases us <;> simp [sameItems, same_iff, sameItems_iff]

theorem sameEntries_iff (es fs : List (YamlKey × YamlTree)) :
    sameEntries es fs = true ↔ es = fs := by
  rcases es with _ | ⟨⟨k, t⟩, es⟩ <;> rcases fs with _ | ⟨⟨l, u⟩, fs⟩ <;>
    simp [sameEntries, same_iff, sameEntries_iff]

end

instance : DecidableEq YamlTree := fun t u => decidable_of_iff _ (same_iff t u)

/-! ## Plain values -/

mutual

/-- The value of a tree, with the texts of its keys. -/
def toValue : YamlTree → Value
  | null | again => .null
  | bool b => .bool b
  | int n => .int n
  | float x => .float x
  | str s => .str s
  | sign s => .sign s
  | list items => .list (toValues items)
  | mapping entries => .object (Fields.ofPairs (toPairs entries))

def toValues : List YamlTree → List Value
  | [] => []
  | item :: items => toValue item :: toValues items

def toPairs : List (YamlKey × YamlTree) → List (Text × Value)
  | [] => []
  | (key, tree) :: entries => (key.label, toValue tree) :: toPairs entries

end

mutual

/-- Why a tree has no value, if it has none: a key gives no text, or there is no end to it. -/
def fault? : YamlTree → Option ConversionError
  | list items => itemsFault? items
  | mapping entries => entriesFault? entries
  | again => some .endless
  | _ => none

def itemsFault? : List YamlTree → Option ConversionError
  | [] => none
  | item :: items => (fault? item).or (itemsFault? items)

def entriesFault? : List (YamlKey × YamlTree) → Option ConversionError
  | [] => none
  | (key, tree) :: entries => key.fault?.or ((fault? tree).or (entriesFault? entries))

end

mutual

def ofValue : Value → YamlTree
  | .null => null
  | .bool b => bool b
  | .int n => int n
  | .float x => float x
  | .str s => str s
  | .sign s => sign s
  | .list items => list (ofValues items)
  | .object fields => mapping (ofFields fields)

def ofValues : List Value → List YamlTree
  | [] => []
  | v :: vs => ofValue v :: ofValues vs

def ofFields : List (Text × Value) → List (YamlKey × YamlTree)
  | [] => []
  | (key, v) :: fields => (.text key, ofValue v) :: ofFields fields

end

end YamlTree

end Stencil
