import Stencil.Yaml.Gap
import Stencil.Yaml.Plain
import Stencil.Yaml.Quoted

/-!
# Tokens on demand

A reader takes the tokens one by one, and the document is read only as far as the next token needs
it: behind a scalar or a collection that may turn out to be a key, up to where that is settled.
-/

namespace Stencil.Yaml

/-- A token that is a key if a colon follows on its line, not too far away. A colon has to follow
if the token stands where a mapping goes on. -/
structure PossibleKey where
  number : Nat
  required : Bool
  mark : Mark
  deriving DecidableEq, Repr

/-- What a reader has of a document: the place that has been reached, the tokens that wait, how
many have been taken, and whether all have been read. `flow` are the open flow collections, lists
or not, innermost first, `keys` the possible keys with the number of flow collections around
them, and `margins` the open block collections, innermost first: one more than their columns. -/
structure Supply where
  purpose : Purpose
  place : Cursor
  queue : List Token
  taken : Nat
  isDone : Bool
  flow : List Bool
  keys : List (Nat × PossibleKey)
  margins : List Nat
  keyAllowed : Bool

namespace Supply

/-- The supply at the start of a document. -/
def start (purpose : Purpose) (s : Text) (cut? : Option Fault) : Supply :=
  ⟨purpose, .start s cut?, [.mark .start .start], 0, false, [], [], [], true⟩

/-- Whether the place is inside a flow collection. -/
def inFlow (s : Supply) : Bool := !s.flow.isEmpty

/-- One more than the column of the innermost block collection. -/
def margin (s : Supply) : Nat := s.margins.headD 0

/-- Puts a token at the end of the queue. -/
def add (t : Token) (s : Supply) : Supply := { s with queue := s.queue ++ [t] }

/-! ## Possible keys -/

/-- How many characters a key may have. -/
def maxKeyLength : Nat := 1024

/-- Whether a key is no longer possible at a mark. -/
def isStale (m : Mark) (key : PossibleKey) : Bool :=
  key.mark.line != m.line || decide (key.mark.index + maxKeyLength < m.index)

/-- Drops the keys that are no longer possible; none of them may be required. -/
def dropStaleKeys (s : Supply) : Except Fault Supply :=
  let isStale := fun (key : Nat × PossibleKey) => isStale s.place.mark key.2
  if s.keys.any fun key => isStale key && key.2.required then .error .malformed
  else .ok { s with keys := s.keys.filter (!isStale ·) }

/-- The possible key inside the innermost flow collection, or outside all of them. -/
def key? (s : Supply) : Option PossibleKey := s.keys.lookup s.flow.length

/-- The supply without the possible key of the innermost flow collection. -/
def withoutKey (s : Supply) : Supply :=
  { s with keys := s.keys.filter (·.1 != s.flow.length) }

/-- Drops the possible key of the innermost flow collection; it may not be required. -/
def dropKey (s : Supply) : Except Fault Supply :=
  if s.key?.any (·.required) then .error .malformed else .ok s.withoutKey

/-- Notes that the next token may be a key, if one is allowed here. -/
def noteKey (s : Supply) : Except Fault Supply := do
  if !s.keyAllowed then return s
  let dropped ← s.dropKey
  let required := !s.inFlow && s.margin == s.place.mark.column + 1
  let key := ⟨s.taken + s.queue.length, required, s.place.mark⟩
  return { dropped with keys := (s.flow.length, key) :: dropped.keys }

/-! ## Block collections -/

/-- Ends the block collections that stand further in than a margin; inside a flow collection none
ends. -/
def unwind (margin : Nat) (s : Supply) : Supply :=
  if s.inFlow then s
  else
    let ended := s.margins.takeWhile (margin < ·)
    { s with
      queue := s.queue ++ ended.map fun _ => .mark .blockEnd s.place.mark
      margins := s.margins.drop ended.length }

/-- Starts a block collection at a column, if it stands further in than the last one. -/
def indent? (column : Nat) (s : Supply) : Option Supply :=
  if s.margin < column + 1 then some { s with margins := (column + 1) :: s.margins } else none

/-- Starts a block collection at the place, if one starts there. -/
def openBlock (kind : TokenKind) (s : Supply) : Supply :=
  match s.indent? s.place.mark.column with
  | some s => s.add (.mark kind s.place.mark)
  | none => s

/-! ## Signs -/

/-- Takes a sign of some characters as a token. -/
def take (kind : TokenKind) (length : Nat) (s : Supply) : Except Fault Supply := do
  let behind ← s.place.advance length
  return { s.add ⟨kind, s.place.mark, behind.mark, none⟩ with place := behind }

def finish (s : Supply) : Except Fault Supply := do
  let s ← (s.unwind 0).dropKey
  return { s.add (.mark .finish s.place.mark) with keys := [], keyAllowed := false, isDone := true }

/-- A marker of a document, which ends all block collections. -/
def takeMarker (kind : TokenKind) (s : Supply) : Except Fault Supply := do
  let s ← (s.unwind 0).dropKey
  { s with keyAllowed := false }.take kind 3

/-- The start of a flow collection, which may be a key as a whole. -/
def takeFlowStart (isList : Bool) (s : Supply) : Except Fault Supply := do
  let s ← s.noteKey
  { s with flow := isList :: s.flow, keyAllowed := true }.take (.flowStart isList) 1

def takeFlowEnd (isList : Bool) (s : Supply) : Except Fault Supply := do
  let s ← s.dropKey
  { s with flow := s.flow.tail, keyAllowed := false }.take (.flowEnd isList) 1

/-- A comma between the items of a flow collection. -/
def takeComma (s : Supply) : Except Fault Supply := do
  let s ← { s with keyAllowed := true }.dropKey
  s.take .comma 1

def takeDash (s : Supply) : Except Fault Supply := do
  if !s.inFlow && !s.keyAllowed then throw .malformed
  let s := if s.inFlow then s else s.openBlock .listStart
  let s ← { s with keyAllowed := true }.dropKey
  s.take .dash 1

/-- A question mark in front of a key. -/
def takeQuestion (s : Supply) : Except Fault Supply := do
  if !s.inFlow && !s.keyAllowed then throw .malformed
  let s := if s.inFlow then s else s.openBlock .mappingStart
  let s ← { s with keyAllowed := !s.inFlow }.dropKey
  s.take .key 1

/-- Puts tokens in front of the one with a number. -/
def insertAt (number : Nat) (tokens : List Token) (s : Supply) : Supply :=
  let n := number - s.taken
  { s with queue := s.queue.take n ++ tokens ++ s.queue.drop n }

/-- A colon. It makes a key of what may be one, and that may be the start of a mapping. -/
def takeColon (s : Supply) : Except Fault Supply := do
  match s.key? with
  | some key =>
    let s := { s.withoutKey with keyAllowed := false }
    let s := match if s.inFlow then none else s.indent? key.mark.column with
      | some s => s.insertAt key.number [.mark .mappingStart key.mark, .mark .key key.mark]
      | none => s.insertAt key.number [.mark .key key.mark]
    s.take .value 1
  | none =>
    if !s.inFlow && !s.keyAllowed then throw .malformed
    let s := if s.inFlow then s else s.openBlock .mappingStart
    let s ← { s with keyAllowed := !s.inFlow }.dropKey
    s.take .value 1

/-! ## Scalars -/

def takeQuoted (style : Style) (quote : CodePoint) (s : Supply) : Except Fault Supply := do
  let s ← s.noteKey
  let atEnd := s.place.cut?.getD .malformed
  let (content, rest) ← readQuoted quote atEnd (s.place.rest.drop 1)
  let behind ← s.place.advanceTo rest
  let token := ⟨.scalar style content, s.place.mark, behind.mark, none⟩
  return { s.add token with place := behind, keyAllowed := false }

/-- Takes a plain scalar. Empty lines behind it stay with it, if they are to be written again. -/
def takePlain (s : Supply) : Except Fault Supply := do
  let s ← s.noteKey
  let start := s.place.mark
  let scalar ← readPlain s.inFlow s.margin s.place
  let hasLines := s.purpose == .rewriting && scalar.gap.head? == some (chr '\n')
  let lines := Comments.ofBehind ⟨scalar.gap ++ [chr '\n'], start.line, start.column⟩
  let token := ⟨.scalar .plain scalar.content, start, scalar.stop,
    if hasLines then some lines else none⟩
  return { s.add token with place := scalar.place, keyAllowed := scalar.endsLine }

/-! ## The next token -/

/-- Whether a marker of three signs starts at the place. -/
def isAtMarker (marker : Text) (place : Cursor) : Except Fault Bool := do
  if place.mark.column != 0 || place.next? != marker.head? then return false
  let _ ← place.ahead? 2
  if place.rest.take 3 != marker then return false
  return endsToken (← place.ahead? 3)

/-- Whether a colon at the place is a sign. Inside a flow mapping it nearly always is. -/
def isColonSign (s : Supply) (next : Option CodePoint) : Bool :=
  let isBehindColon := s.queue.getLast?.any (·.kind == .value)
  endsToken next || s.flow.head? == some false && !isBehindColon

/-- Reads the token at the place, which is a sign or starts a scalar. -/
def fetchToken (s : Supply) : Except Fault Supply := do
  let some c ← s.place.ahead? 0 | s.finish
  if c == '%' && s.place.mark.column == 0 then throw .malformed
  if ← isAtMarker (text "---") s.place then return ← s.takeMarker .documentStart
  if ← isAtMarker (text "...") s.place then return ← s.takeMarker .documentEnd
  match c with
  | '[' => s.takeFlowStart true
  | '{' => s.takeFlowStart false
  | ']' => s.takeFlowEnd true
  | '}' => s.takeFlowEnd false
  | ',' => s.takeComma
  | '\'' => s.takeQuoted .single '\''
  | '"' => s.takeQuoted .double '"'
  | _ =>
    let next ← s.place.ahead? 1
    if c == '-' && endsToken next then s.takeDash
    else if c == '?' && (s.inFlow || endsToken next) then s.takeQuestion
    else if c == ':' && s.isColonSign next then s.takeColon
    else if startsPlain s.inFlow c next then s.takePlain
    else throw .malformed

/-- Reads on to the next token or comment. -/
def fetch (s : Supply) : Except Fault Supply := do
  let gap ← readGap s.purpose s.inFlow s.place
  let s := { s with
    place := gap.place
    keyAllowed := s.keyAllowed || gap.endsLine && !s.inFlow }
  match gap.comment? with
  | some comment => return s.add comment
  | none => ((← s.dropStaleKeys).unwind (s.place.mark.column + 1)).fetchToken

/-- Whether the first token in the queue is not settled yet, and the supply without stale keys. -/
def isUnsettled (s : Supply) : Except Fault (Bool × Supply) := do
  if s.isDone then return (false, s)
  if s.queue.isEmpty then return (true, s)
  let s ← s.dropStaleKeys
  return (s.keys.any (·.2.number == s.taken), s)

/-- Reads on until the first token is settled. Every round takes a character or ends the text. -/
def settle : (rounds : Nat) → Supply → Except Fault Supply
  | 0, s => .ok s
  | rounds + 1, s => do
    let (unsettled, s) ← s.isUnsettled
    if unsettled then settle rounds (← s.fetch) else return s

/-- More rounds than reading the rest of the document can take. -/
def rounds (s : Supply) : Nat := s.place.rest.length + 2

/-! ## Comments between tokens -/

/-- Takes the comment at the head of the queue, if there is one. -/
def takeComment? (s : Supply) : Option (Comment × Supply) :=
  match s.queue with
  | [] => none
  | t :: queue => t.comment?.map fun c => (c, { s with queue := queue, taken := s.taken + 1 })

/-- Gathers the comments in front of the first token, and settles it. -/
def gather : (rounds : Nat) → List Comment → Supply → Except Fault (List Comment × Supply)
  | 0, comments, s => .ok (comments, s)
  | rounds + 1, comments, s => do
    let (unsettled, s) ← s.isUnsettled
    if !unsettled then return (comments, s)
    let s ← s.fetch
    match s.takeComment? with
    | some (c, s) => gather rounds (comments ++ [c]) s
    | none => gather rounds comments s

/-- Puts the comments in front of the first token, and has a second one at hand. -/
def gatherComments (s : Supply) : Except Fault Supply := do
  let (comments, s) := match s.takeComment? with
    | some (c, s) => ([c], s)
    | none => ([], s)
  let (comments, s) ← gather s.rounds comments s
  let s := match s.queue with
    | t :: queue =>
      if comments.isEmpty then s else { s with queue := t.putBefore comments :: queue }
    | [] => s
  if !s.isDone && s.queue.length < 2 then s.fetch else return s

/-- The comments behind the first token of the queue, which follow one another, and the supply
without them. `body` is what has been gathered of them. -/
def gatherBehind : (rounds : Nat) → (body : Text) → Supply → Except Fault (Text × Supply)
  | 0, body, s => .ok (body, s)
  | rounds + 1, body, s =>
    match s.queue with
    | t :: next :: queue =>
      match next.comment? with
      | none => .ok (body, s)
      | some c => do
        let s ← { s with queue := t :: queue, taken := s.taken + 1 }.fetch
        gatherBehind rounds (body ++ List.replicate c.column (chr ' ') ++ c.body) s
    | _ => .ok (body, s)

/-- Puts the comments that follow the first token behind it. One that starts on a later line goes
only behind a scalar, with the lines and columns that lie between. -/
def attachBehind (s : Supply) : Except Fault Supply := do
  match s.queue with
  | t :: next :: queue =>
    let some c := next.comment? | return s
    let isSameLine := t.stop.line == next.start.line
    if isSameLine && !t.takesComment || !isSameLine && !t.isScalar then return s
    let s ← { s with queue := t :: queue, taken := s.taken + 1 }.fetch
    let body := if isSameLine then c.body
      else List.replicate (c.line - t.stop.line) (chr '\n') ++
        List.replicate c.column (chr ' ') ++ c.body
    let (body, s) ← gatherBehind s.rounds body s
    match s.queue with
    | t :: queue => return { s with queue := t.putBehind { c with body := body } :: queue }
    | [] => return s
  | _ => return s

/-! ## Taking tokens -/

/-- Has the first token ready, with the comments in front of it. -/
def ready (s : Supply) : Except Fault Supply := do
  let s ← s.settle s.rounds
  match s.purpose with
  | .values => return s
  | .rewriting => s.gatherComments

/-- Has the first token ready, with all its comments. -/
def readyToTake (s : Supply) : Except Fault Supply := do
  let s ← s.ready
  match s.purpose with
  | .values => return s
  | .rewriting => s.attachBehind

/-- The first token of the queue; behind the end of the document this is its end again. -/
def first (s : Supply) : Token := s.queue.headD (.mark .finish s.place.mark)

end Supply

/-! ## Reading -/

abbrev Reading := StateT Supply (Except Fault)

namespace Reading

/-- The next token, which stays where it is. -/
def peek : Reading Token := do
  set (← (← get).ready)
  return (← get).first

def next : Reading Token := do
  let s ← (← get).readyToTake
  set { s with queue := s.queue.tail, taken := s.taken + 1 }
  return s.first

def modifyNext (f : Token → Token) : Reading Unit :=
  modify fun s =>
    match s.queue with
    | t :: queue => { s with queue := f t :: queue }
    | [] => s

/-- Whether the next token is of a kind. -/
def isNext (p : TokenKind → Bool) : Reading Bool := return p (← peek).kind

/-- Moves the comments of a token that was taken to the next one, and gives those that stay. -/
def passComments (t : Token) (asValue : Bool) : Reading (Option Comments) := do
  let some comments := t.comments | return none
  let target ← peek
  if target.kind == .finish || target.kind == .documentStart then return some comments
  match target.comments with
  | none =>
    modifyNext ({ · with comments := some (if asValue then comments.passOn else comments) })
  | some others =>
    if comments.overlap others then throw (.overlap comments others)
    modifyNext ({ · with comments := some (comments.join others) })
  return none

end Reading

end Stencil.Yaml
