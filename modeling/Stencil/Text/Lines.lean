import Stencil.Text.Blank

/-!
# Lines

Line ends are made uniform on reading, and runs of three or more blank lines are cut down to two.
-/

namespace Stencil.Text

/-- The text with every line end written as a newline. -/
def normalizeLineEnds : Text → Text
  | [] => []
  | '\r' :: '\n' :: s => '\n' :: normalizeLineEnds s
  | '\r' :: s => '\n' :: normalizeLineEnds s
  | c :: s => c :: normalizeLineEnds s

/-- The lines of a text, each with its newline; the last one may have none. -/
def lines : Text → List Text
  | [] => []
  | c :: s =>
    if c == '\n' then [c] :: lines s
    else match lines s with
      | [] => [[c]]
      | line :: rest => (c :: line) :: rest

/-! ## Blank lines -/

/-- A line of spaces and tabs with a newline, maybe behind a carriage return. -/
def isBlankLine (line : Text) : Bool :=
  let rest := line.dropWhile fun c => c == chr ' ' || c == chr '\t'
  rest == [chr '\n'] || rest == [chr '\r', chr '\n']

/-- What a run of blank lines becomes. Two lines are left of three or more, with a carriage
return if the run has one. -/
def squeezeRun (run : List Text) : Text :=
  if 3 ≤ run.length then
    let lineEnd := text (if run.flatten.contains '\r' then "\r\n" else "\n")
    lineEnd ++ lineEnd
  else run.flatten

/-- Squeezes the runs of blank lines, the first of which continues `run`. -/
def squeezeLines (run : List Text) : List Text → Text
  | [] => squeezeRun run
  | line :: rest =>
    if isBlankLine line then squeezeLines (run ++ [line]) rest
    else squeezeRun run ++ line ++ squeezeLines [] rest

/-- Cuts every run of three or more blank lines down to two. -/
def squeezeBlankLines (s : Text) : Text := squeezeLines [] (lines s)

/-! ## Lines for a screen -/

/-- The control characters that would ring or move the cursor. -/
def movesCursor (c : CodePoint) : Bool :=
  let n := c.toNat
  n == 7 || n == 8 || (11 ≤ n && n ≤ 13)

/-- Lines as they are shown: without what moves the cursor, each with a newline. -/
def screen (rows : List Text) : Text :=
  rows.flatMap fun row => row.filter (!movesCursor ·) ++ [chr '\n']

end Stencil.Text
