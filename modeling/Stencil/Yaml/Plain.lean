import Stencil.Yaml.Token

/-!
# Plain scalars

A plain scalar ends in front of a colon that ends a token, of a comment, and in a flow collection
in front of the signs of the collection. It may go on over several lines, each indented far
enough, and is folded like a quoted one.
-/

namespace Stencil.Yaml

def isFlowSign (c : CodePoint) : Bool :=
  c == ',' || c == '[' || c == ']' || c == '{' || c == '}'

def startsNoPlain : Text := text ",[]\x7b\x7d#&*!|>'\"%@`"

/-- Whether a plain scalar starts with `c`, in front of `next`. -/
def startsPlain (inFlow : Bool) (c : CodePoint) (next : Option CodePoint) : Bool :=
  if c == '-' then !endsToken next
  else if c == '?' then !inFlow && !endsToken next
  else if c == ':' then
    if inFlow then next.any (!isInlineBlank ·) else !endsToken next
  else !startsNoPlain.contains c && !isSeparator c && !isInlineBlank c && !isLineEnd c

/-! ## Pieces and gaps -/

/-- The piece of a plain scalar at the front of a text, without any blanks, and the rest. -/
def takePiece (inFlow : Bool) : Text → Text × Text
  | [] => ([], [])
  | c :: s =>
    if isInlineBlank c || isLineEnd c || c == ':' && endsToken s.head? || inFlow && isFlowSign c
    then ([], c :: s)
    else let (piece, rest) := takePiece inFlow s; (c :: piece, rest)

/-- The line breaks at the front of a text that stands behind one, and the rest of it: `none` if
a marker follows one of them. -/
def moreBreaks : Text → Option Text × Text
  | [] => (some [], [])
  | '\r' :: '\n' :: s =>
    if startsMarked s then (none, s)
    else let (breaks, rest) := moreBreaks s; (breaks.map (chr '\n' :: ·), rest)
  | c :: s =>
    if c == ' ' then moreBreaks s
    else if isLineEnd c || isSeparator c then
      if startsMarked s then (none, s)
      else
        let (breaks, rest) := moreBreaks s
        (breaks.map ((if isSeparator c then c else '\n') :: ·), rest)
    else (some [], c :: s)

/-- What a gap between two pieces becomes, the text behind it, and whether a line ends in it. A
marker ends the scalar: then the gap becomes nothing. -/
def takeGap (s : Text) : Text × Text × Bool :=
  let blanks := s.takeWhile (· == chr ' ')
  let rest := s.dropWhile (· == chr ' ')
  match breakAhead? rest with
  | none => (blanks, rest, false)
  | some (c, n) =>
    let rest := rest.drop n
    if startsMarked rest then ([], rest, true)
    else match moreBreaks rest with
      | (none, rest) => ([], rest, true)
      | (some breaks, rest) =>
        (if c != '\n' then c :: breaks else if breaks.isEmpty then [chr ' '] else breaks,
          rest, true)

/-! ## Scalars -/

/-- A plain scalar: its text, where it ends, the place behind the gap that follows it, what this
gap would become, and whether a line ends in it. -/
structure PlainScalar where
  content : Text
  stop : Mark
  place : Cursor
  gap : Text
  endsLine : Bool

/-- Goes on with a plain scalar whose lines stand at least `margin` columns in. Every round takes
a character, so that the length of the text bounds the rounds. -/
def PlainScalar.extend (inFlow : Bool) (margin : Nat) :
    (rounds : Nat) → PlainScalar → Except Fault PlainScalar
  | 0, scalar => .ok scalar
  | rounds + 1, scalar => do
    let (piece, rest) := takePiece inFlow scalar.place.rest
    if piece.isEmpty || scalar.place.next? == some (chr '#') then return scalar
    let behind ← scalar.place.advanceTo rest
    let (gap, rest, endsLine) := takeGap rest
    let place ← behind.advanceTo rest
    let scalar := ⟨scalar.content ++ scalar.gap ++ piece, behind.mark, place, gap, endsLine⟩
    if gap.isEmpty || !inFlow && place.mark.column < margin then return scalar
    extend inFlow margin rounds scalar

/-- Reads the plain scalar that starts at a place. -/
def readPlain (inFlow : Bool) (margin : Nat) (place : Cursor) : Except Fault PlainScalar :=
  PlainScalar.extend inFlow margin (place.rest.length + 1) ⟨[], place.mark, place, [], false⟩

end Stencil.Yaml
