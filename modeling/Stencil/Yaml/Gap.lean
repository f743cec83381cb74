import Stencil.Yaml.Token

/-!
# Gaps

What stands between two tokens: blanks, line ends and comments. When values alone are read, a gap
is skipped at once. When a document is to be written again, a gap ends behind each comment, and
empty lines behind the end of a line are a comment of their own.
-/

namespace Stencil.Yaml

/-- A part of a gap: the place behind it, whether a line ended in it, and the comment that it
ends with. -/
structure Gap where
  place : Cursor
  endsLine : Bool
  comment? : Option Token

/-- The blanks of a gap; tabs are none outside flow collections. -/
def isGapBlank (inFlow : Bool) (c : CodePoint) : Bool := c == ' ' || inFlow && c == '\t'

/-! ## Skipping -/

/-- The text behind a gap, and whether a line ended in it. -/
def skipGap (inFlow : Bool) (inComment endsLine : Bool) : Text → Text × Bool
  | [] => ([], endsLine)
  | c :: s =>
    if inComment then
      if isLineEnd c then skipGap inFlow false true s else skipGap inFlow true endsLine s
    else if isGapBlank inFlow c then skipGap inFlow false endsLine s
    else if c == '#' then skipGap inFlow true endsLine s
    else if isLineEnd c || isSeparator c then skipGap inFlow false true s
    else (c :: s, endsLine)

/-! ## Comments -/

/-- What a part of a gap ends in front of. -/
inductive GapEnd where
  | token
  | comment
  | emptyLines
  deriving DecidableEq, Repr

/-- The text behind blanks and line ends, whether a line ended, and what comes next. -/
def skipBlanks (inFlow : Bool) (behindBreak endsLine : Bool) : Text → Text × Bool × GapEnd
  | [] => ([], endsLine, .token)
  | '\r' :: '\n' :: s => skipBlanks inFlow true true s
  | c :: s =>
    if behindBreak && c == '\n' then (c :: s, endsLine, .emptyLines)
    else if isGapBlank inFlow c then skipBlanks inFlow false endsLine s
    else if c == '#' then (c :: s, endsLine, .comment)
    else if isLineEnd c || isSeparator c then skipBlanks inFlow true true s
    else (c :: s, endsLine, .token)

/-- The line breaks at the front of a text and the rest of it; blanks may stand between them. -/
def takeBreaks (blanks : Bool) : Text → Text × Text
  | [] => ([], [])
  | '\r' :: '\n' :: s => let (breaks, rest) := takeBreaks blanks s; ('\n' :: breaks, rest)
  | c :: s =>
    if isLineEnd c then let (breaks, rest) := takeBreaks blanks s; ('\n' :: breaks, rest)
    else if isSeparator c || blanks && isInlineBlank c then
      let (breaks, rest) := takeBreaks blanks s
      (c :: breaks, rest)
    else ([], c :: s)

/-- A comment to the end of its line, and the rest of the text. The last line gets an end if it
has none. -/
def takeLine : Text → Text × Text
  | [] => (['\n'], [])
  | c :: s =>
    if isLineEnd c then ([c], s)
    else let (line, rest) := takeLine s; (c :: line, rest)

/-- A comment with the line breaks behind it, and the rest of the text. -/
def takeComment (s : Text) : Text × Text :=
  let (line, rest) := takeLine s
  let (breaks, rest) := takeBreaks false rest
  (line ++ breaks, rest)

/-- The text up to its last newline. -/
def upToBreak (s : Text) : Text := (s.reverse.dropWhile (· != chr '\n')).reverse

/-- Empty lines, and the rest of the text. Blanks in front of a comment are no part of them. -/
def takeEmptyLines (s : Text) : Text × Text :=
  let (lines, rest) := takeBreaks true s
  (if rest.head? == some (chr '#') then upToBreak lines else lines, rest)

/-- The text without the spaces at its end. -/
def dropSpaces (s : Text) : Text := (s.reverse.dropWhile (· == chr ' ')).reverse

/-- The comment that starts at a place, as a token, and the place behind it. -/
def readComment (place : Cursor) (take : Text → Text × Text) : Except Fault (Token × Cursor) := do
  let (body, rest) := take place.rest
  let behind ← place.advanceTo rest
  return (⟨.comment (dropSpaces body), place.mark, behind.mark, none⟩, behind)

/-- Reads a part of a gap. A byte order mark at the start of the document is skipped. -/
def readGap (purpose : Purpose) (inFlow : Bool) (place : Cursor) : Except Fault Gap := do
  let marked := place.mark.index == 0 && place.next? == some (chr '\uFEFF')
  let place ← if marked then place.advance 1 else pure place
  match purpose with
  | .values =>
    let (rest, endsLine) := skipGap inFlow false false place.rest
    return ⟨← place.advanceTo rest, endsLine, none⟩
  | .rewriting =>
    let (rest, endsLine, next) := skipBlanks inFlow false false place.rest
    let place ← place.advanceTo rest
    match next with
    | .token => return ⟨place, endsLine, none⟩
    | .comment =>
      let (comment, behind) ← readComment place takeComment
      return ⟨behind, true, some comment⟩
    | .emptyLines =>
      let (comment, behind) ← readComment place takeEmptyLines
      return ⟨behind, endsLine, some comment⟩

end Stencil.Yaml
