import Stencil.Text.Blank
import Stencil.Text.Ranges
import Stencil.Text.WidthTable

/-!
# Wrapped lines

A line that is too long for a screen goes on in the next one, from a word that does not fit. A
word that fits in no line is broken wherever a line is full.
-/

namespace Stencil.Text

/-! ## Columns -/

def columns (c : CodePoint) : Nat :=
  if inRanges markRanges c.toNat then 0 else if inRanges wideRanges c.toNat then 2 else 1

def width (s : Text) : Nat := s.foldl (fun n c => n + columns c) 0

/-- How many columns lie between two tab stops. -/
def tabSize : Nat := 8

/-- A line with spaces in place of its tabs, each up to the next tab stop. It starts at a column. -/
def expandTabs (column : Nat) : Text → Text
  | [] => []
  | c :: s =>
    if c == '\t' then
      let gap := tabSize - column % tabSize
      List.replicate gap (chr ' ') ++ expandTabs (column + gap) s
    else c :: expandTabs (column + columns c) s

/-! ## Words -/

/-- Cuts a line in front of each word that has a blank in front of it. -/
def cutWords : Text → List Text
  | [] => []
  | c :: s =>
    match cutWords s with
    | [] => [[c]]
    | word :: words =>
      if isBlank c && word.head?.any (!isBlank ·) then [c] :: word :: words
      else (c :: word) :: words

/-- The words of a line with the blanks behind them; the first one has those in front as well. -/
def spacedWords (line : Text) : List Text :=
  match cutWords line with
  | first :: second :: words =>
    if first.all isBlank then (first ++ second) :: words else first :: second :: words
  | words => words

/-- The pieces of a word that each fit in a line, of which `used` columns are taken. -/
def chop (limit used : Nat) : Text → List Text
  | [] => [[]]
  | c :: s =>
    if used + columns c ≤ limit then pushFront [c] (chop limit (used + columns c) s)
    else [] :: pushFront [c] (chop limit (columns c) s)
where
  /-- Puts text in front of the first piece. -/
  pushFront (front : Text) : List Text → List Text
    | [] => [front]
    | piece :: pieces => (front ++ piece) :: pieces

/-! ## Lines -/

/-- Puts words on lines. The first line goes on behind `line`. -/
def wrapWords (limit : Nat) (line : Text) : List Text → List Text
  | [] => [line]
  | word :: words =>
    let size := width (trimEnd word)
    let done := if line.isEmpty then [] else [line]
    if width line + size ≤ limit then wrapWords limit (line ++ word) words
    else if limit < size then
      let pieces := chop limit 0 word
      done ++ pieces.dropLast ++ wrapWords limit (pieces.getLastD []) words
    else done ++ wrapWords limit word words

/-- A line without the blanks at its end that stand beyond the screen. -/
def trimBeyond (limit : Nat) (line : Text) : Text :=
  let body := trimEnd line
  let blanks := (line.drop body.length).take (limit - body.length)
  body ++ (chop limit (width body) blanks).headD []

/-- A line as lines of at most so many columns. -/
def wrapLine (limit : Nat) (line : Text) : List Text :=
  (wrapWords limit [] (spacedWords (expandTabs 0 line))).map (trimBeyond limit)

/-- The text with lines of at most so many columns. -/
def wrap (limit : Nat) (s : Text) : Text :=
  join ['\n'] ((splitOn '\n' s).flatMap (wrapLine limit))

end Stencil.Text
