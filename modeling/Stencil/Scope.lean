import Stencil.Numeral
import Stencil.Value

/-!
# Scopes

A scope is a base context with one layer for each loop around. The names that loops bind belong
to the innermost loop alone; every other name is looked up in the base.
-/

namespace Stencil

/-! ## Steps -/

/-- The segment that asks for a size. -/
def lengthName : Text := text "length"

namespace Value

/-- What one segment of a path leads to. -/
def child (v : Value) (part : Text) : Except ConversionError (Option Value) :=
  match v with
  | object fields =>
    match Fields.get? part fields with
    | some w => .ok (some w)
    | none => .ok (if part == lengthName then some (int fields.length) else none)
  | list items =>
    if part == lengthName then .ok (some (int items.length))
    else do
      let index ← Numeral.index part
      return index.bind (items[·]?)
  | str s => .ok (if part == lengthName then some (int s.length) else none)
  | _ => .ok none

/-- What the segments of a path lead to, one after the other. -/
def follow (v : Value) : List Text → Except ConversionError (Option Value)
  | [] => .ok (some v)
  | part :: parts =>
    if part.isEmpty then .ok none
    else do
      match ← v.child part with
      | none => return none
      | some w => follow w parts

end Value

/-! ## Loops -/

/-- One turn of a loop; over a mapping it has a key. -/
structure Entry where
  index : Nat
  item : Value
  key? : Option Text

namespace Entry

def itemName : Text := text "item"
def indexName : Text := text "index"
def keyName : Text := text "key"
def valueName : Text := text "value"

def bindings (e : Entry) : Fields :=
  match e.key? with
  | none => [(itemName, e.item), (indexName, .int e.index)]
  | some key =>
    [(keyName, .str key), (valueName, e.item), (itemName, e.item), (indexName, .int e.index)]

/-- The names that only a loop binds. -/
def isReserved (name : Text) : Bool :=
  name == itemName || name == indexName || name == keyName || name == valueName

/-- The entries of a list, or of the fields of a mapping; other values have none. -/
def ofValue : Value → List Entry
  | .list items => items.zipIdx.map fun (item, i) => ⟨i, item, none⟩
  | .object fields => fields.zipIdx.map fun ((key, item), i) => ⟨i, item, some key⟩
  | _ => []

end Entry

/-! ## Layers -/

/-- A base context, or a loop inside another scope. -/
inductive Scope where
  | base (fields : Fields)
  | loop (outer : Scope) (entry : Entry)

namespace Scope

def get? (name : Text) : Scope → Option Value
  | base fields => Fields.get? name fields
  | loop outer entry =>
    if Entry.isReserved name then Fields.get? name entry.bindings else outer.get? name

/-- The names in order: those of the loop, then those of the scope around that no loop binds. -/
def names : Scope → List Text
  | base fields => fields.map Prod.fst
  | loop outer entry =>
    entry.bindings.map Prod.fst ++ outer.names.filter (!Entry.isReserved ·)

def size (s : Scope) : Nat := s.names.length

def toFields (s : Scope) : Fields :=
  s.names.filterMap fun name => (s.get? name).map (name, ·)

/-- What the first segment of a path leads to. -/
def member? (s : Scope) (part : Text) : Option Value :=
  match s.get? part with
  | some v => some v
  | none => if part == lengthName then some (.int s.size) else none

/-- The value at a dotted path; `none` if a segment is empty or leads nowhere. -/
def lookup (s : Scope) (path : Text) : Except ConversionError (Option Value) :=
  match Text.splitOn '.' (Text.trim path) with
  | [] => .ok none
  | first :: rest =>
    if first.isEmpty then .ok none
    else match s.member? first with
      | none => .ok none
      | some v => v.follow rest

/-- The turns of a loop over the value at a path. -/
def entries (s : Scope) (path : Text) : Except ConversionError (List Entry) := do
  return match ← s.lookup path with
    | some v => Entry.ofValue v
    | none => []

end Scope

end Stencil
