import Stencil.Yaml.Node
import Stencil.Yaml.Scalar.Writing

/-!
# Writing nodes

Collections are written in the form that they had, with their comments. A collection inside
brackets is in brackets too, and so is one that is empty or a key.
-/

namespace Stencil.Yaml.Node

/-! ## Places -/

/-- What a node is in the one around it. A marked key has a question mark in front of it. -/
inductive Role where
  | root
  | item
  | key
  | markedKey
  | value
  deriving DecidableEq, Repr

/-- Where a node is written: what it is, the column of the collection around it if that has one,
and whether it stands in the brackets of a list or of a mapping, if it stands in brackets. -/
structure Spot where
  role : Role
  margin : Option Nat
  brackets : Option Bool

namespace Spot

def inFlow (spot : Spot) : Bool := spot.brackets.isSome

def as (role : Role) (spot : Spot) : Spot := { spot with role := role }

/-- The column of what is inside a node. Brackets around the whole document have none. -/
def innerMargin (inBrackets : Bool) (spot : Spot) : Option Nat :=
  match spot.margin with
  | some column => some (column + 2)
  | none => if inBrackets then none else some 0

def inside (isList : Bool) (spot : Spot) : Spot :=
  ⟨.item, spot.innerMargin true, some isList⟩

/-- The spot of the items of a list without brackets. Behind a key on its line, the list stands in
the column of the mapping. -/
def items (pen : Pen) (spot : Spot) : Spot :=
  let isValue := spot.role == .value || spot.role == .markedKey
  ⟨.item, if isValue && !pen.isFresh then spot.margin else spot.innerMargin false, none⟩

/-- The spot of the entries of a mapping without brackets. -/
def entries (spot : Spot) : Spot := ⟨.key, spot.innerMargin false, none⟩

def goTo (spot : Spot) (pen : Pen) : Pen := pen.indent (spot.margin.getD 0)

/-- Starts a new line in brackets, if the line is full. -/
def fold (spot : Spot) (pen : Pen) : Pen := if pen.isFull then spot.goTo pen else pen

end Spot

/-! ## Comments -/

def writeBehind (comments : Option Comments) (pen : Pen) : Pen :=
  match comments.bind (·.behind) with
  | some c => pen.commentBehind c
  | none => pen

/-- Writes the comments in front of a node. -/
def writeBefore (comments : Option Comments) (pen : Pen) : Pen :=
  ((comments.map (·.before)).getD []).foldl Pen.commentLines pen

/-- Writes the comments that stand in front of a collection or behind a key. Items and keys have
theirs written before they start. -/
def startCollection (spot : Spot) (inBrackets : Bool) (comments : Option Comments) (pen : Pen) :
    Pen :=
  let pen := if inBrackets then pen else writeBehind comments pen
  if (spot.role == .item || spot.role == .key) && !spot.inFlow then pen
  else writeBefore comments pen

/-- Closes brackets. Behind empty ones the line ends. -/
def close (spot : Spot) (bracket : Text) (isEmpty inBrackets : Bool) (comments : Option Comments)
    (pen : Pen) : Pen :=
  let pen := pen.closeSign bracket
  if inBrackets && (comments.bind (·.behind)).isSome then writeBehind comments pen
  else if isEmpty && !spot.inFlow then pen.breakLine '\n'
  else pen

/-! ## Scalars -/

/-- A scalar as it is written. The sign of a value is a text where it is a key. -/
def written (spot : Spot) (style : Style) (content : Text) : WrittenScalar :=
  let isKey := spot.role == .key || spot.role == .markedKey
  if isKey && style == .plain && content == [chr '='] then .ofValue (.str content)
  else .ofScalar style content

/-- Writes a scalar and the comment behind it. -/
def writeScalar (spot : Spot) (s : WrittenScalar) (comments : Option Comments) (pen : Pen) : Pen :=
  let margin := spot.innerMargin true
  let pen := if spot.role == .item && !spot.inFlow then pen.indent (margin.getD 0) else pen
  writeBehind comments (s.write margin spot.inFlow (spot.role == .key) pen)

/-- Writes the comments behind the last item of a collection, unless it is an item itself. -/
def writeEnding (spot : Spot) (ending : List Comment) (pen : Pen) : Pen :=
  if spot.role == .item then pen else ending.foldl Pen.commentLines pen

/-- Whether a node can be a key without a mark. -/
def isSimpleKey : Node → Bool
  | scalar style content _ => (WrittenScalar.ofScalar style content).isSimpleKey
  | fresh v _ => (WrittenScalar.ofValue v).isSimpleKey
  | _ => true

/-! ## Nodes -/

mutual

def write (spot : Spot) : Node → Pen → Pen
  | scalar style content comments, pen =>
    writeScalar spot (written spot style content) comments pen
  | fresh v comments, pen => writeScalar spot (.ofValue v) comments pen
  | list inBrackets items comments ending, pen =>
    let pen := startCollection spot inBrackets comments pen
    if inBrackets || spot.inFlow || items.isEmpty || spot.role == .key then
      let inner := spot.inside true
      close spot [']'] items.isEmpty inBrackets comments
        (writeFlowItems inner true items (pen.opening ['[']))
    else
      writeEnding spot ending (writeItems (spot.items pen) items pen)
  | mapping inBrackets entries comments ending, pen =>
    let pen := startCollection spot inBrackets comments pen
    if inBrackets || spot.inFlow || entries.isEmpty || spot.role == .key then
      let inner := spot.inside false
      let isBare := spot.brackets == some true && entries.length == 1
      close spot (if isBare then [] else [chr '}']) entries.isEmpty inBrackets comments
        (writeFlowEntries inner true entries (pen.opening (if isBare then [] else [chr '{'])))
    else
      writeEnding spot ending (writeEntries spot.entries entries pen)

/-- Writes the items of a list, each behind a dash. -/
def writeItems (spot : Spot) : List Node → Pen → Pen
  | [], pen => pen
  | item :: items, pen =>
    let pen := (spot.goTo (writeBefore item.comments pen)).leading ['-']
    writeItems spot items (write spot item pen)

/-- Writes the entries of a mapping, each on its lines. -/
def writeEntries (spot : Spot) : List (Node × Node) → Pen → Pen
  | [], pen => pen
  | (key, value) :: entries, pen =>
    let pen := spot.goTo (writeBefore key.comments pen)
    let pen :=
      if key.isSimpleKey then (write spot key pen).closeSign [':']
      else
        let pen := write (spot.as .markedKey) key (pen.leading ['?'])
        (spot.goTo pen).leading [':']
    writeEntries spot entries (write (spot.as .value) value pen)

/-- Writes the items of a list in brackets. -/
def writeFlowItems (spot : Spot) (isFirst : Bool) : List Node → Pen → Pen
  | [], pen => pen
  | item :: items, pen =>
    let pen := spot.fold (if isFirst then pen else pen.closeSign [','])
    writeFlowItems spot false items (write spot item pen)

/-- Writes the entries of a mapping in brackets. -/
def writeFlowEntries (spot : Spot) (isFirst : Bool) : List (Node × Node) → Pen → Pen
  | [], pen => pen
  | (key, value) :: entries, pen =>
    let pen := spot.fold (if isFirst then pen else pen.closeSign [','])
    let pen :=
      if key.isSimpleKey then (write (spot.as .key) key pen).closeSign [':']
      else
        let pen := write (spot.as .markedKey) key (pen.sign ['?'])
        (spot.fold pen).sign [':']
    writeFlowEntries spot false entries (write (spot.as .value) value pen)

end

def toText (root : Node) : Text :=
  ((write ⟨.root, none, none⟩ root .start).indent 0).written

/-! ## Changing entries -/

def isText (content : Text) : Node → Bool
  | scalar .plain s _ => s == content && (isPlainText s || s == [chr '='])
  | scalar _ s _ => s == content
  | fresh (.str s) _ => s == content
  | _ => false

/-- Sets an entry: a key that is there keeps its place, and the comments of its value stay there; a
new one goes last. -/
def insertEntry (key : Text) (value : Node) : List (Node × Node) → List (Node × Node)
  | [] => [(fresh (.str key) none, value)]
  | (k, v) :: entries =>
    if k.isText key then (k, value.withComments v.comments) :: entries
    else (k, v) :: insertEntry key value entries

/-- Sets entries of a document, one after the other. Only a mapping with entries stays as it is
otherwise. -/
def storeFields (fields : Fields) (document : Option Node) : Node :=
  let update (entries : List (Node × Node)) :=
    fields.foldl (fun entries (key, v) => insertEntry key (ofValue v) entries) entries
  match document with
  | some (mapping inBrackets (entry :: entries) comments ending) =>
    mapping inBrackets (update (entry :: entries)) comments ending
  | _ => mapping false (update []) none []

end Stencil.Yaml.Node
