import Stencil.Yaml.Comment

/-!
# Writing by columns

A pen writes a document from left to right, and knows where on the line it stands.
-/

namespace Stencil.Yaml

/-- What is written so far, in reverse, and the column. `isSpaced` tells that a blank stands in
front of the pen, and `isFresh` that nothing but indentation and dashes stand on the line. -/
structure Pen where
  reversed : Text
  column : Nat
  isSpaced : Bool
  isFresh : Bool

namespace Pen

/-- The pen at the start of a document. -/
def start : Pen := ⟨[], 0, true, true⟩

def written (pen : Pen) : Text := pen.reversed.reverse

/-- How many columns a line should not exceed. -/
def width : Nat := 80

def isFull (pen : Pen) : Bool := decide (width < pen.column)

/-- Writes a text that does not count for the column. -/
def writeAside (s : Text) (pen : Pen) : Pen := { pen with reversed := s.reverse ++ pen.reversed }

/-- Writes a text that stays on the line. -/
def write (s : Text) (pen : Pen) : Pen :=
  { pen.writeAside s with column := pen.column + s.length }

/-- Ends the line, with a line break of any kind. -/
def breakLine (lineBreak : CodePoint) (pen : Pen) : Pen :=
  ⟨lineBreak :: pen.reversed, 0, true, true⟩

/-- Goes to a column, on a new line unless nothing has been written that far. -/
def indent (column : Nat) (pen : Pen) : Pen :=
  let isBehind := !pen.isFresh || column < pen.column || column == pen.column && !pen.isSpaced
  let pen := if isBehind then pen.breakLine '\n' else pen
  if pen.column < column then
    { pen.write (List.replicate (column - pen.column) (chr ' ')) with isSpaced := true }
  else pen

/-- Writes a sign, with a space in front of it unless there is one. -/
def sign (s : Text) (pen : Pen) : Pen :=
  { pen.write (if pen.isSpaced then s else ' ' :: s) with isSpaced := false, isFresh := false }

/-- Writes a sign close to what stands in front of it. -/
def closeSign (s : Text) (pen : Pen) : Pen :=
  { pen.write s with isSpaced := false, isFresh := false }

/-- Writes a sign that opens brackets: no space follows it. -/
def opening (s : Text) (pen : Pen) : Pen := { pen.sign s with isSpaced := true }

/-- Writes a sign with which a line may begin. -/
def leading (s : Text) (pen : Pen) : Pen := { pen.sign s with isFresh := pen.isFresh }

/-- Goes on inside a scalar on a new line. -/
def continueAt (column : Nat) (pen : Pen) : Pen :=
  { pen.indent column with isSpaced := false, isFresh := false }

/-! ## Comments -/

/-- The spaces in front of a comment. It goes to its old column if that is free, and a comment
that starts with a line break needs none. -/
def commentSpaces (c : Comment) (pen : Pen) : Nat :=
  if c.body.head? == some (chr '\n') then 0
  else if pen.column != 0 && c.column ≤ pen.column && c.body != [] && c.body != [chr '\n'] then 1
  else c.column - pen.column

/-- Writes a comment behind what stands on the line, and ends the line. -/
def commentBehind (c : Comment) (pen : Pen) : Pen :=
  let body := if c.body.getLast? == some (chr '\n') then c.body.dropLast else c.body
  (pen.writeAside (List.replicate (commentSpaces c pen) (chr ' ') ++ body)).breakLine '\n'

/-- Writes a comment on lines of its own. -/
def commentLines (pen : Pen) (c : Comment) : Pen :=
  let pen := if pen.column == 0 then pen else pen.breakLine '\n'
  pen.writeAside (List.replicate (commentSpaces c pen) (chr ' ') ++ c.body)

end Pen

end Stencil.Yaml
