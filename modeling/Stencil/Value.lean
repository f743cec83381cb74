import Stencil.Binary64.Shortest
import Stencil.Conversion
import Stencil.Text.Escaped

/-!
# Values

What a context holds: null, booleans, numbers, texts, lists and mappings. The fields of a mapping
keep their order, and integers are kept apart from doubles. Not every value can be written: an
integer may have too many digits, and a bare sign has no JSON text.
-/

namespace Stencil

/-- A value of a context. A mapping is the list of its fields. A bare sign stands in a document
where a value should; it has a text but is none. -/
inductive Value where
  | null
  | bool (b : Bool)
  | int (n : Int)
  | float (x : Binary64)
  | str (s : Text)
  | sign (s : Text)
  | list (items : List Value)
  | object (fields : List (Text × Value))
  deriving Inhabited

/-- The fields of a mapping, in order. -/
abbrev Fields := List (Text × Value)

/-! ## Fields -/

namespace Fields

def get? (key : Text) : Fields → Option Value
  | [] => none
  | (k, v) :: fields => if k == key then some v else get? key fields

def contains (key : Text) (fields : Fields) : Bool := (get? key fields).isSome

/-- Sets a field: one that is there keeps its place, a new one goes last. -/
def insert (key : Text) (value : Value) : Fields → Fields
  | [] => [(key, value)]
  | (k, v) :: fields =>
    if k == key then (key, value) :: fields else (k, v) :: insert key value fields

def erase (key : Text) : Fields → Fields
  | [] => []
  | (k, v) :: fields => if k == key then fields else (k, v) :: erase key fields

/-- Sets all fields of `added`, one after the other. -/
def update (fields added : Fields) : Fields :=
  added.foldl (fun fs field => insert field.1 field.2 fs) fields

/-- Fields from pairs: a repeated key keeps its first place and takes its last value. -/
def ofPairs (pairs : List (Text × Value)) : Fields := update [] pairs

def keys (fields : Fields) : List Text := fields.map Prod.fst

/-- The fields inside the field `key`; anything but a mapping counts as an empty one. -/
def within (key : Text) (fields : Fields) : Fields :=
  match get? key fields with
  | some (.object inner) => inner
  | _ => []

end Fields

namespace Value

/-! ## Equality -/

mutual

/-- Whether two values are the same, with their fields in the same order. -/
def same : Value → Value → Bool
  | null, null => true
  | bool a, bool b => a == b
  | int m, int n => m == n
  | float x, float y => x == y
  | str s, str t => s == t
  | sign s, sign t => s == t
  | list vs, list ws => sameItems vs ws
  | object fs, object gs => sameFields fs gs
  | _, _ => false

def sameItems : List Value → List Value → Bool
  | [], [] => true
  | v :: vs, w :: ws => same v w && sameItems vs ws
  | _, _ => false

def sameFields : List (Text × Value) → List (Text × Value) → Bool
  | [], [] => true
  | (k, v) :: fs, (l, w) :: gs => k == l && same v w && sameFields fs gs
  | _, _ => false

end

mutual

theorem same_iff (v w : Value) : same v w = true ↔ v = w := by
  cases v <;> cases w <;> simp [same, sameItems_iff, sameFields_iff]

theorem sameItems_iff (vs ws : List Value) : sameItems vs ws = true ↔ vs = ws := by
  cases vs <;> cases ws <;> simp [sameItems, same_iff, sameItems_iff]

theorem sameFields_iff (fs gs : List (Text × Value)) : sameFields fs gs = true ↔ fs = gs := by
  rcases fs with _ | ⟨⟨k, v⟩, fs⟩ <;> rcases gs with _ | ⟨⟨l, w⟩, gs⟩ <;>
    simp [sameFields, same_iff, sameFields_iff]

end

instance : DecidableEq Value := fun v w => decidable_of_iff _ (same_iff v w)

/-! ## Truth -/

/-- Null, false, zero and what is empty are false; all else is true. -/
def truthy : Value → Bool
  | null => false
  | bool b => b
  | int n => n != 0
  | float x => !x.isZero
  | str s => !s.isEmpty
  | sign _ => true
  | list items => !items.isEmpty
  | object fields => !fields.isEmpty

/-! ## JSON text -/

def floatJson : Binary64 → Text
  | .nan => text "NaN"
  | .infinite negative => text (if negative then "-Infinity" else "Infinity")
  | x => x.toText

def scalarJson (ascii : Bool) : Value → Text
  | null => text "null"
  | bool b => text (if b then "true" else "false")
  | int n => Text.ofInt n
  | float x => floatJson x
  | str s | sign s => Text.escaped ascii s
  | list _ => text "[]"
  | object _ => text "\x7b\x7d"

mutual

def json (ascii : Bool) : Value → Text
  | list items => [chr '['] ++ jsonItems ascii items ++ [chr ']']
  | object fields => [chr '{'] ++ jsonFields ascii fields ++ [chr '}']
  | v => scalarJson ascii v

def jsonItems (ascii : Bool) : List Value → Text
  | [] => []
  | [v] => json ascii v
  | v :: vs => json ascii v ++ text ", " ++ jsonItems ascii vs

def jsonFields (ascii : Bool) : List (Text × Value) → Text
  | [] => []
  | [(k, v)] => Text.escaped ascii k ++ text ": " ++ json ascii v
  | (k, v) :: fields =>
    Text.escaped ascii k ++ text ": " ++ json ascii v ++ text ", " ++ jsonFields ascii fields

end

/-- A line break with the indentation of a nesting depth, two spaces each. -/
def lineBreak (depth : Nat) : Text := '\n' :: List.replicate (2 * depth) (chr ' ')

mutual

/-- JSON text in ASCII with one item a line, for a value that stands `depth` deep. -/
def jsonLines (depth : Nat) : Value → Text
  | list (v :: vs) =>
    [chr '['] ++ jsonItemLines (depth + 1) (v :: vs) ++ lineBreak depth ++ [chr ']']
  | object (f :: fs) =>
    [chr '{'] ++ jsonFieldLines (depth + 1) (f :: fs) ++ lineBreak depth ++ [chr '}']
  | v => scalarJson true v

def jsonItemLines (depth : Nat) : List Value → Text
  | [] => []
  | [v] => lineBreak depth ++ jsonLines depth v
  | v :: vs => lineBreak depth ++ jsonLines depth v ++ [chr ','] ++ jsonItemLines depth vs

def jsonFieldLines (depth : Nat) : List (Text × Value) → Text
  | [] => []
  | [(k, v)] => lineBreak depth ++ Text.escaped true k ++ text ": " ++ jsonLines depth v
  | (k, v) :: fields =>
    lineBreak depth ++ Text.escaped true k ++ text ": " ++ jsonLines depth v ++ [chr ','] ++
      jsonFieldLines depth fields

end

/-! ## Text of a value -/

/-- A double that is an integer is written as one. -/
def floatText (x : Binary64) : Text :=
  match x.integer? with
  | some n => Text.ofInt n
  | none => x.toText

mutual

/-- How a value reads inside a text: nothing for null, items with commas, mappings as JSON. -/
def toText : Value → Text
  | null => []
  | bool b => text (if b then "true" else "false")
  | int n => Text.ofInt n
  | float x => floatText x
  | str s | sign s => s
  | list items => itemsText items
  | object fields => json false (object fields)

def itemsText : List Value → Text
  | [] => []
  | [v] => toText v
  | v :: vs => toText v ++ text ", " ++ itemsText vs

end

/-! ## Values that cannot be written -/

mutual

/-- Why a value has no JSON text, if it has none; the first fault inside it counts. -/
def jsonFault? : Value → Option ConversionError
  | int n => if isTooLong n then some .tooLongToWrite else none
  | sign _ => some .noJson
  | list items => jsonItemsFault? items
  | object fields => jsonFieldsFault? fields
  | _ => none

def jsonItemsFault? : List Value → Option ConversionError
  | [] => none
  | v :: vs => (jsonFault? v).or (jsonItemsFault? vs)

def jsonFieldsFault? : List (Text × Value) → Option ConversionError
  | [] => none
  | (_, v) :: fields => (jsonFault? v).or (jsonFieldsFault? fields)

end

mutual

/-- Why a value has no text, if it has none. -/
def textFault? : Value → Option ConversionError
  | int n => if isTooLong n then some .tooLongToWrite else none
  | list items => itemsFault? items
  | object fields => jsonFieldsFault? fields
  | _ => none

def itemsFault? : List Value → Option ConversionError
  | [] => none
  | v :: vs => (textFault? v).or (itemsFault? vs)

end

/-! ## Labels -/

mutual

/-- How a value is shown inside brackets: texts in quotes. -/
def shown : Value → Text
  | null => text "None"
  | bool b => text (if b then "True" else "False")
  | int n => Text.ofInt n
  | float x => x.toText
  | str s => Text.quoted s
  | sign s => s
  | list items => [chr '['] ++ shownItems items ++ [chr ']']
  | object fields => [chr '{'] ++ shownFields fields ++ [chr '}']

def shownItems : List Value → Text
  | [] => []
  | [v] => shown v
  | v :: vs => shown v ++ text ", " ++ shownItems vs

def shownFields : List (Text × Value) → Text
  | [] => []
  | [(k, v)] => Text.quoted k ++ text ": " ++ shown v
  | (k, v) :: fields => Text.quoted k ++ text ": " ++ shown v ++ text ", " ++ shownFields fields

end

/-- The name that a value gives where a text is wanted: a text as it is, all else as shown. -/
def label : Value → Text
  | str s => s
  | v => shown v

mutual

/-- Why a value cannot be shown, if it cannot. -/
def shownFault? : Value → Option ConversionError
  | int n => if isTooLong n then some .tooLongToWrite else none
  | list items => shownItemsFault? items
  | object fields => shownFieldsFault? fields
  | _ => none

def shownItemsFault? : List Value → Option ConversionError
  | [] => none
  | v :: vs => (shownFault? v).or (shownItemsFault? vs)

def shownFieldsFault? : List (Text × Value) → Option ConversionError
  | [] => none
  | (_, v) :: fields => (shownFault? v).or (shownFieldsFault? fields)

end

end Value

end Stencil
