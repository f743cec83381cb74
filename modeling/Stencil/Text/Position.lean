import Stencil.Text.Blank

/-!
# Positions

Offsets count characters from zero. Lines and columns count from one; a line ends behind its
newline.
-/

namespace Stencil

/-- The part of a text between two offsets. -/
def Text.slice (s : Text) (start stop : Nat) : Text := (s.drop start).take (stop - start)

/-- A line and a column, both counted from one. -/
structure Position where
  line : Nat
  column : Nat
  deriving DecidableEq, Repr

namespace Position

def start : Position := ⟨1, 1⟩

def next (p : Position) (c : CodePoint) : Position :=
  if c == '\n' then ⟨p.line + 1, 1⟩ else ⟨p.line, p.column + 1⟩

/-- The position behind a text that starts at `p`. -/
def behind (p : Position) (s : Text) : Position := s.foldl next p

/-- The position of an offset; past the end of the text only the column grows. -/
def ofOffset (s : Text) (offset : Nat) : Position :=
  let p := start.behind (s.take offset)
  ⟨p.line, p.column + (offset - s.length)⟩

end Position

end Stencil
