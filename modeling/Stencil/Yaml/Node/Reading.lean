import Stencil.Yaml.Node
import Stencil.Yaml.Supply

/-!
# Nodes from tokens

A document is one node, maybe between markers. A second document in the same text is refused.
-/

namespace Stencil.Yaml

open Reading

namespace Node

/-! ## Kinds of tokens -/

/-- Whether an item is missing behind a dash, in front of this. -/
def endsItem : TokenKind → Bool
  | .dash | .blockEnd => true
  | _ => false

/-- Whether an item is missing behind a dash, in a list that is not indented. -/
def endsLooseItem : TokenKind → Bool
  | .dash | .key | .value | .blockEnd => true
  | _ => false

/-- Whether a key or a value is missing in a mapping that is indented. -/
def endsEntry : TokenKind → Bool
  | .key | .value | .blockEnd => true
  | _ => false

/-- Whether a key is missing in brackets; it may have no value either. -/
def endsFlowKey (isList : Bool) : TokenKind → Bool
  | .value | .comma => true
  | kind => kind == .flowEnd isList

def endsFlowValue (isList : Bool) : TokenKind → Bool
  | .comma => true
  | kind => kind == .flowEnd isList

/-! ## Comments -/

/-- The comments of the start of an indented list. Those in front of it stay for all that is
read later; one behind it goes to the list alone. -/
def listComments (t : Token) : Option Comments :=
  t.comments.bind fun c =>
    if c.before.isEmpty then c.behind.map .ofBehind else some c

/-- Takes the comment behind the next token away from it. For a value that is missing, it is
forgotten that the comment was passed on. -/
def takeBehind (asMissing : Bool) : Reading (Option Comments) := do
  let t ← peek
  modifyNext ({ · with
    comments := t.comments.map fun c =>
      { c with behind := none, passed := if asMissing then none else c.passed } })
  return (t.comments.bind (·.behind)).map .ofBehind

/-- Takes the comments in front of the next token away from it. -/
def takeBefore : Reading (List Comment) := do
  let t ← peek
  modifyNext ({ · with comments := t.comments.map fun c => { c with before := [] } })
  return (t.comments.map (·.before)).getD []

/-- The list or mapping in brackets that ends with a token, which gives it its comments. -/
def closed (make : Option Comments → List Comment → Node) (start stop : Token) : Node :=
  match stop.comments with
  | none => make start.comments []
  | some c => make (some { c with before := [] }) (endingOf (some c) c.before)

/-! ## Nodes -/

mutual

/-- Reads a node. A list or mapping that shows by its indentation may start only outside of
brackets, and a list that is not indented only as a value. Every call uses up one unit of `fuel`;
no more calls are nested than there are tokens. -/
def read (fuel : Nat) (inBlock asValue : Bool) : Reading Node := do
  let fuel + 1 := fuel | throw .malformed
  let t ← peek
  match t.kind with
  | .dash =>
    if !asValue then throw .malformed
    let comments ← takeBehind false
    let items ← readLooseItems fuel
    return .list false items comments (endingOf comments (← takeBefore))
  | .scalar style content =>
    let t ← next
    return .scalar style content t.comments
  | .flowStart isList =>
    let start ← next
    if isList then
      let (items, stop) ← readFlowItems fuel true
      return closed (.list true items) start stop
    else
      let (entries, stop) ← readFlowEntries fuel true
      return closed (.mapping true entries) start stop
  | .listStart =>
    if !inBlock then throw .malformed
    let start ← next
    let (items, stop) ← readItems fuel
    let comments := listComments start
    let before := (stop.comments.map (·.before)).getD []
    return .list false items comments (endingOf comments before)
  | .mappingStart =>
    if !inBlock then throw .malformed
    let start ← next
    let (entries, ending) ← readEntries fuel
    return .mapping false entries start.comments (endingOf start.comments ending)
  | _ => throw .malformed

/-- Reads the items of an indented list, with the token that ends it. -/
def readItems (fuel : Nat) : Reading (List Node × Token) := do
  let fuel + 1 := fuel | throw .malformed
  if ← isNext (· == .dash) then
    let _ ← passComments (← next) false
    let item ← if ← isNext endsItem then pure (missing none) else read fuel true false
    let (items, stop) ← readItems fuel
    return (item :: items, stop)
  else if ← isNext (· == .blockEnd) then return ([], ← next)
  else throw .malformed

/-- Reads the items of a list that is not indented. -/
def readLooseItems (fuel : Nat) : Reading (List Node) := do
  let fuel + 1 := fuel | throw .malformed
  if ← isNext (· == .dash) then
    let _ ← passComments (← next) false
    let item ← if ← isNext endsLooseItem then pure (missing none) else read fuel true false
    return item :: (← readLooseItems fuel)
  else return []

/-- Reads the entries of an indented mapping, with the comments that end it. -/
def readEntries (fuel : Nat) : Reading (List (Node × Node) × List Comment) := do
  let fuel + 1 := fuel | throw .malformed
  if ← isNext (fun kind => kind == .key || kind == .value) then
    let key ← if ← isNext (· == .key) then
        let _ ← passComments (← next) false
        if ← isNext endsEntry then pure (missing none) else read fuel true true
      else pure (missing none)
    let value ← readValue fuel
    let (entries, ending) ← readEntries fuel
    return ((key, value) :: entries, ending)
  else if ← isNext (· == .blockEnd) then
    let ending ← passComments (← next) false
    return ([], (ending.map (·.before)).getD [])
  else throw .malformed

/-- Reads the value behind a key of an indented mapping. A comment behind the colon goes to the
value, and if there is none, stays with the missing value. -/
def readValue (fuel : Nat) : Reading Node := do
  let fuel + 1 := fuel | throw .malformed
  if ← isNext (· == .value) then
    let t ← next
    let kept ← if ← isNext (· == .key) then pure t.comments
      else passComments t !(← isNext (· == .value))
    if ← isNext endsEntry then
      return missing (← if kept.isSome then pure kept else takeBehind true)
    else read fuel true true
  else return missing none

/-- Reads the items of a list in brackets, with the token that ends it. An item may be a mapping
of one entry without brackets of its own. -/
def readFlowItems (fuel : Nat) (isFirst : Bool) : Reading (List Node × Token) := do
  let fuel + 1 := fuel | throw .malformed
  if ← isNext (· == .flowEnd true) then return ([], ← next)
  if !isFirst then
    if ← isNext (· == .comma) then let _ ← next
    else throw .malformed
  if ← isNext (· == .key) then
    let _ ← next
    let key ← if ← isNext (endsFlowKey true) then pure (missing none) else read fuel false false
    let value ← readFlowValue fuel true
    let (items, stop) ← readFlowItems fuel false
    return (.mapping true [(key, value)] none [] :: items, stop)
  else if ← isNext (· == .flowEnd true) then return ([], ← next)
  else
    let item ← read fuel false false
    let (items, stop) ← readFlowItems fuel false
    return (item :: items, stop)

/-- Reads the entries of a mapping in brackets, with the token that ends it. A key may be missing,
and a value too. -/
def readFlowEntries (fuel : Nat) (isFirst : Bool) : Reading (List (Node × Node) × Token) := do
  let fuel + 1 := fuel | throw .malformed
  if ← isNext (· == .flowEnd false) then return ([], ← next)
  if !isFirst then
    if ← isNext (· == .comma) then let _ ← next
    else throw .malformed
  if ← isNext (· == .flowEnd false) then return ([], ← next)
  let entry ← do
    if ← isNext (· == .key) then
      let _ ← next
      let key ← if ← isNext (endsFlowKey false) then pure (missing none)
        else read fuel false false
      pure (key, ← readFlowValue fuel false)
    else if ← isNext (· == .value) then pure (missing none, ← readFlowValue fuel false)
    else pure (← read fuel false false, missing none)
  let (entries, stop) ← readFlowEntries fuel false
  return (entry :: entries, stop)

/-- Reads the value behind a key in brackets. -/
def readFlowValue (fuel : Nat) (isList : Bool) : Reading Node := do
  let fuel + 1 := fuel | throw .malformed
  if ← isNext (· == .value) then
    let _ ← next
    if ← isNext (endsFlowValue isList) then return missing none
    else read fuel false false
  else return missing none

end

/-! ## Documents -/

/-- Whether nothing stands between the markers of a document. -/
def isMarkerOrEnd : TokenKind → Bool
  | .documentStart | .documentEnd | .finish => true
  | _ => false

/-- Reads the only document of a text; `none` if the text has nothing but comments. -/
def readDocument (fuel : Nat) : Reading (Option Node) := do
  let _ ← passComments (← next) false
  if ← isNext (· == .finish) then return none
  let root ← do
    if ← isNext (· == .documentStart) then
      let _ ← next
      if ← isNext isMarkerOrEnd then pure (missing none) else read fuel true false
    else read fuel true false
  if ← isNext (· == .documentEnd) then
    let _ ← next
  if ← isNext (· == .finish) then return some root
  else throw .malformed

/-- The node that a text writes. Behind a text that is cut off, `cut?` waits. -/
def ofText? (purpose : Purpose) (s : Text) (cut? : Option Fault) :
    Except Fault (Option Node) :=
  (readDocument (16 * s.length + 32)).run' (.start purpose s cut?)

end Node

end Stencil.Yaml
