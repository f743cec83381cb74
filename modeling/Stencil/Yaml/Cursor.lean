import Stencil.Yaml.Fault

/-!
# Places in a document

A cursor stands somewhere in a document and moves forward. The text behind it may be cut off, if
the file could be read no further: then whoever looks beyond the cut meets its cause.
-/

namespace Stencil.Yaml

/-! ## Characters -/

def isLineEnd (c : CodePoint) : Bool := c == '\n' || c == '\r' || c == '\u0085'

/-- The separators of lines and paragraphs, which stay in a scalar that is folded over them. -/
def isSeparator (c : CodePoint) : Bool := c == '\u2028' || c == '\u2029'

def isInlineBlank (c : CodePoint) : Bool := c == ' ' || c == '\t'

/-- Whether a token ends in front of this: at a blank, a line end, or the end of the text. -/
def endsToken (next : Option CodePoint) : Bool := next.all fun c => isInlineBlank c || isLineEnd c

/-- The line break at the front of a text: what it becomes, and how long it is. -/
def breakAhead? : Text → Option (CodePoint × Nat)
  | '\r' :: '\n' :: _ => some ('\n', 2)
  | c :: _ => if isLineEnd c then some ('\n', 1) else if isSeparator c then some (c, 1) else none
  | [] => none

/-- Whether a text starts with one of the two markers of three signs. -/
def startsMarked (s : Text) : Bool :=
  let marks := s.take 3
  (marks == text "---" || marks == text "...") && endsToken (s.drop 3).head?

/-! ## Marks -/

/-- How many characters are in front of a place, and its line and column, counted from zero. -/
structure Mark where
  index : Nat
  line : Nat
  column : Nat
  deriving DecidableEq, Repr

namespace Mark

/-- The mark at the start of a document. -/
def start : Mark := ⟨0, 0, 0⟩

/-- The mark behind a character that has `next` behind it. A byte order mark takes no column. -/
def pass (m : Mark) (c : CodePoint) (next : Option CodePoint) : Mark :=
  if c == '\n' || (c == '\r' && next != some (chr '\n')) then ⟨m.index + 1, m.line + 1, 0⟩
  else ⟨m.index + 1, m.line, m.column + if c == '\uFEFF' then 0 else 1⟩

/-- The mark behind the first `n` characters of a text, and the rest of it. -/
def passAll : Nat → Mark → Text → Mark × Text
  | 0, m, s => (m, s)
  | _ + 1, m, [] => (m, [])
  | n + 1, m, c :: s => passAll n (m.pass c s.head?) s

end Mark

/-! ## Cursors -/

/-- A place in a document, and the text behind it; `cut?` is why there is no more of it. -/
structure Cursor where
  mark : Mark
  rest : Text
  cut? : Option Fault

namespace Cursor

def start (s : Text) (cut? : Option Fault) : Cursor := ⟨.start, s, cut?⟩

/-- The next character, or `none` at the end. -/
def next? (c : Cursor) : Option CodePoint := c.rest.head?

def ahead? (c : Cursor) (n : Nat) : Except Fault (Option CodePoint) :=
  match c.rest[n]?, c.cut? with
  | none, some fault => .error fault
  | found, _ => .ok found

/-- The place `n` characters further on. It has to be known what comes there. -/
def advance (c : Cursor) (n : Nat) : Except Fault Cursor :=
  let (mark, rest) := Mark.passAll n c.mark c.rest
  match rest, c.cut? with
  | [], some fault => .error fault
  | rest, _ => .ok { c with mark := mark, rest := rest }

/-- The place at which `rest`, the end of the text, begins. -/
def advanceTo (c : Cursor) (rest : Text) : Except Fault Cursor :=
  c.advance (c.rest.length - rest.length)

end Cursor

end Stencil.Yaml
