import Stencil.Condition
import Stencil.Scope

/-!
# Truth of conditions

Comparisons are made on texts, or on numbers if both sides write one. Terms are decided from left
to right, and no further than needed.
-/

namespace Stencil

/-- The text of a value; nothing for one that is missing. -/
def Value.textOf (v : Option Value) : Text := (v.map toText).getD []

/-- The text of a value that may be missing, if it can be written. -/
def Value.written (v : Option Value) : Except ConversionError Text :=
  match v.bind textFault? with
  | some e => .error e
  | none => .ok (textOf v)

/-! ## Comparing with a literal -/

/-- Equality with a literal: of numbers if the literal is bare and both sides write one. -/
def Literal.equals (literal : Literal) (v : Option Value) : Except ConversionError Bool := do
  let body ← Value.written v
  if literal.quoted then return body == literal.text
  let left ← Numeral.number body
  let right ← Numeral.number literal.text
  match left, right with
  | some x, some y => return x.same y
  | _, _ => return body == literal.text

def Comparison.holds (op : Comparison) (x y : Binary64) : Bool :=
  match op with
  | equal => x.same y
  | unequal => !x.same y
  | greater => y.less x
  | greaterOrEqual => y.less x || x.same y
  | less => x.less y
  | lessOrEqual => x.less y || x.same y

/-- Order against a literal: false unless both sides write numbers, and for every boolean. -/
def Literal.ordered (literal : Literal) (op : Comparison) (v : Option Value) :
    Except ConversionError Bool :=
  match v with
  | some (.bool _) => .ok false
  | v => do
    let left ← Numeral.number (← Value.written v)
    let right ← Numeral.number literal.text
    match left, right with
    | some x, some y => return op.holds x y
    | _, _ => return false

/-- Whether some value of the list equals the literal; the first one that does ends the search. -/
def Literal.isAmong (literal : Literal) : List Value → Except ConversionError Bool
  | [] => .ok false
  | v :: vs => do
    if ← literal.equals (some v) then return true
    literal.isAmong vs

/-- Membership: an item of a list, a key of a mapping, a part of a text. -/
def Literal.isMember (literal : Literal) : Option Value → Except ConversionError Bool
  | some (.list items) => literal.isAmong items
  | some (.object fields) => .ok (Fields.contains literal.text fields)
  | some (.str s) => .ok (Text.has literal.text s)
  | _ => .ok false

/-! ## Terms and conditions -/

def Term.holds (scope : Scope) : Term → Except ConversionError Bool
  | .truth path negated => do
    let v ← scope.lookup path
    return (v.any Value.truthy) != negated
  | .compare path op literal => do
    let v ← scope.lookup path
    match op with
    | .equal => literal.equals v
    | .unequal => return !(← literal.equals v)
    | op => literal.ordered op v
  | .member path literal negated => do
    let v ← scope.lookup path
    return (← literal.isMember v) != negated

/-- Whether all terms hold; the first that does not ends the search. -/
def allHold (scope : Scope) : List Term → Except ConversionError Bool
  | [] => .ok true
  | t :: ts => do
    if ← t.holds scope then allHold scope ts else return false

/-- Whether some term holds; the first that does ends the search. -/
def anyHolds (scope : Scope) : List Term → Except ConversionError Bool
  | [] => .ok false
  | t :: ts => do
    if ← t.holds scope then return true else anyHolds scope ts

def Condition.holds (scope : Scope) : Condition → Except ConversionError Bool
  | .single t => t.holds scope
  | .joined .all ts => allHold scope ts
  | .joined .any ts => anyHolds scope ts

end Stencil
