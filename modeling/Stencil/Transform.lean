import Stencil.Condition.Truth
import Stencil.Text.Words

/-!
# Transforms

A reference may name a transform, which turns a value into text. Those for lists take any other
value as a single item or as its text. A transform fails only on what it cannot write.
-/

namespace Stencil

/-- The transforms that a reference can name. -/
inductive Transform where
  | lowercase
  | uppercase
  | capitalize
  | kebab
  | snake
  | camel
  | pascal
  | count
  | join
  | joinLines
  | bullet
  | numbered
  | json
  | first
  | last
  deriving DecidableEq, Repr

namespace Transform

def name : Transform → Text
  | lowercase => text "lowercase"
  | uppercase => text "uppercase"
  | capitalize => text "capitalize"
  | kebab => text "kebab"
  | snake => text "snake"
  | camel => text "camel"
  | pascal => text "pascal"
  | count => text "count"
  | join => text "join"
  | joinLines => text "joinlines"
  | bullet => text "bullet"
  | numbered => text "numbered"
  | json => text "json"
  | first => text "first"
  | last => text "last"

def all : List Transform :=
  [lowercase, uppercase, capitalize, kebab, snake, camel, pascal, count, join, joinLines, bullet,
   numbered, json, first, last]

def aliases : List (Text × Transform) :=
  [(text "lower", lowercase), (text "upper", uppercase), (text "title", capitalize),
   (text "kebabcase", kebab), (text "snakecase", snake), (text "camelcase", camel),
   (text "pascalcase", pascal), (text "bullets", bullet)]

/-- The transform of a name, in any letter case and with blanks around it. -/
def ofName? (name : Text) : Option Transform :=
  let name := Text.lower (Text.trim name)
  (aliases.lookup name).or (all.find? (·.name == name))

/-! ## Application -/

/-- The text of each item behind what `lead` writes in front of it, counted from one. -/
def itemLines (lead : Nat → Text) (items : List Value) : Text :=
  Text.join ['\n'] (items.zipIdx.map fun (v, i) => lead (i + 1) ++ v.toText)

/-- A list by its items, any other value as if it were the only item. -/
def asLines (lead : Nat → Text) : Value → Text
  | .list items => itemLines lead items
  | v => lead 1 ++ v.toText

/-- The number of items, fields, or characters of the text. -/
def countText : Value → Text
  | .list items => Text.ofNat items.length
  | .object fields => Text.ofNat fields.length
  | v => Text.ofNat v.toText.length

/-- The items of a list with `separator` between them, any other value as its text. -/
def joined (separator : Text) : Value → Text
  | .list items => Text.join separator (items.map Value.toText)
  | v => v.toText

/-- One item of a list, nothing of an empty one, any other value as its text. -/
def picked (pick : List Value → Option Value) : Value → Text
  | .list items => Value.textOf (pick items)
  | v => v.toText

/-- The text of a value that is not null. -/
def applyTo (t : Transform) (v : Value) : Text :=
  match t with
  | lowercase => Text.lower v.toText
  | uppercase => Text.upper v.toText
  | capitalize => Text.title v.toText
  | kebab => Text.kebab v.toText
  | snake => Text.snake v.toText
  | camel => Text.camel v.toText
  | pascal => Text.pascal v.toText
  | count => countText v
  | join => joined (text ", ") v
  | joinLines => joined ['\n'] v
  | bullet => asLines (fun _ => text "- ") v
  | numbered => asLines (fun i => Text.ofNat i ++ text ". ") v
  | json => v.json false
  | first => picked List.head? v
  | last => picked List.getLast? v

/-- The text of a value; nothing for null. -/
def apply (t : Transform) : Value → Text
  | .null => []
  | v => t.applyTo v

/-- Why a transform cannot write a value, if it cannot: the size of a list or mapping needs no
text, and of a list that is picked from only the item. -/
def fault? (t : Transform) (v : Value) : Option ConversionError :=
  match t, v with
  | count, .list _ | count, .object _ => none
  | first, .list items => items.head?.bind Value.textFault?
  | last, .list items => items.getLast?.bind Value.textFault?
  | json, v => v.jsonFault?
  | _, v => v.textFault?

/-- Applies the transform of a name to a value that may be missing; an unknown name leaves the
text of the value. -/
def applyNamed (name : Text) (v : Option Value) : Text :=
  match v, ofName? name with
  | some v, some t => t.apply v
  | v, _ => Value.textOf v

end Transform

end Stencil
