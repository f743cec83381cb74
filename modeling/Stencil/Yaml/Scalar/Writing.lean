import Stencil.Yaml.Pen
import Stencil.Yaml.Plain
import Stencil.Yaml.Scalar

/-!
# Writing scalars

A text is written as it stands wherever it would be read back as that text, else between quotes.
Long lines are folded at spaces.
-/

namespace Stencil.Yaml

/-! ## What a text allows -/

/-- The characters that break a line of a scalar. -/
def isBreak (c : CodePoint) : Bool := c == '\n' || c == '\u0085' || isSeparator c

/-- The characters that separate words for the signs of the format. -/
def isSpacing (c : CodePoint) : Bool := c == ' ' || c == '\t' || c == '\r' || isBreak c

def isSpacingNext (next : Option CodePoint) : Bool := next.all isSpacing

/-- Whether a text begins with a sign of the format. In brackets, a colon or a question mark is
one only if it stands alone. -/
def beginsWithSign (inFlow : Bool) (s : Text) : Bool :=
  match s with
  | [] => false
  | c :: rest =>
    startsNoPlain.contains c || (c == '-' && isSpacingNext rest.head?) ||
      ((c == '?' || c == ':') &&
        if inFlow then rest.isEmpty else isSpacingNext rest.head?) ||
      (text "---").isPrefixOf s || (text "...").isPrefixOf s

/-- Whether a sign of the format stands inside a text, behind the character `previous`. -/
def holdsSign (inFlow : Bool) (previous : CodePoint) : Text → Bool
  | [] => false
  | c :: rest =>
    inFlow && isFlowSign c || (c == ':' && isSpacingNext rest.head?) ||
      (c == '#' && isSpacing previous) || holdsSign inFlow c rest

/-- Whether a text has signs of the format that keep it from being written as it stands. -/
def hasSigns (inFlow : Bool) (s : Text) : Bool :=
  beginsWithSign inFlow s ||
    match s with
    | [] => false
    | c :: rest => holdsSign inFlow c rest

/-- Whether a character can be written only by an escape. -/
def needsEscape (c : CodePoint) : Bool :=
  let n := c.toNat
  c.isLone || !(c == '\n' || c == '\u0085' || (0x20 ≤ n && n ≤ 0x7E) ||
    (0xA0 ≤ n && n ≤ 0xFFFD && n != 0xFEFF) || 0x10000 ≤ n)

/-- Whether two characters next to each other satisfy two tests. -/
def hasPair (first second : CodePoint → Bool) : Text → Bool
  | a :: b :: rest => first a && second b || hasPair first second (b :: rest)
  | _ => false

def mixesBreaks (s : Text) : Bool :=
  hasPair isBreak (· == chr ' ') s || hasPair (· == chr ' ') isBreak s

/-- Whether a text begins or ends with a space or a line break. -/
def hasLooseEnd (s : Text) : Bool :=
  let isLoose (c : CodePoint) := c == ' ' || isBreak c
  s.head?.any isLoose || s.getLast?.any isLoose

/-- Whether a text may stand as it is. -/
def allowsPlain (inFlow : Bool) (s : Text) : Bool :=
  if s.isEmpty then !inFlow
  else !(hasLooseEnd s || s.any needsEscape || s.any isBreak || hasSigns inFlow s)

/-- Whether a text may stand between single quotes. -/
def allowsSingle (s : Text) : Bool := !(s.any needsEscape || mixesBreaks s)

/-! ## Styles -/

/-- A scalar to be written: its text, the style that it should keep, and whether it is a text
rather than another value. -/
structure WrittenScalar where
  content : Text
  style : Style
  isText : Bool

namespace WrittenScalar

/-- The word for null where it cannot be left out. -/
def nullWord : Text := text "null"

def ofWord (s : Text) : WrittenScalar := ⟨s, .plain, false⟩

def doubleText : Binary64 → Text
  | .nan => text ".nan"
  | .infinite negative => text (if negative then "-.inf" else ".inf")
  | x => x.toText

/-- An integer as a plain scalar; one with too many decimal digits is written in hexadecimal. -/
def integerText (n : Int) : Text :=
  if isTooLong n then text (if n < 0 then "-0x" else "0x") ++ Text.hex 0 n.natAbs
  else Text.ofInt n

def ofValue : Value → WrittenScalar
  | .bool b => ofWord (text (if b then "true" else "false"))
  | .int n => ofWord (integerText n)
  | .float x => ofWord (doubleText x)
  | .str s => ⟨s, .plain, true⟩
  | .sign s => ofWord s
  | _ => ofWord []

/-- A scalar that has been read. Numbers keep their form, null and booleans get the common one. -/
def ofScalar (style : Style) (content : Text) : WrittenScalar :=
  match style, resolve .rewriting content with
  | .plain, .ok .null => ofValue .null
  | .plain, .ok (.bool b) => ofValue (.bool b)
  | .plain, .ok (.str s) => ofValue (.str s)
  | .plain, _ => ofWord content
  | style, _ => ⟨content, style, true⟩

/-- The style in which a scalar is written. A key stays on one line. -/
def chosenStyle (inFlow isKey : Bool) (s : WrittenScalar) : Style :=
  let content := s.content
  let isLong := content.any isBreak
  let readsBack := !s.isText || isPlainText content
  if s.style == .double then .double
  else if s.style == .plain && readsBack && !(isKey && content.isEmpty) &&
      allowsPlain inFlow content then .plain
  else if s.style == .plain && content.any (fun c => c == chr '\'' || c == chr '\n') then .double
  else if allowsSingle content && !(isKey && isLong) then .single
  else .double

/-- The scalar with the word for null, where it cannot be left out. -/
def spelled (inFlow isKey : Bool) (s : WrittenScalar) : WrittenScalar :=
  if !s.isText && s.content.isEmpty && (inFlow || isKey) then ofWord nullWord else s

/-- How many characters a key may have to be written without a mark. -/
def maxKeyLength : Nat := 122

/-- Whether a scalar can be a key without a mark. -/
def isSimpleKey (s : WrittenScalar) : Bool :=
  s.content.length ≤ maxKeyLength && !s.content.any isBreak

end WrittenScalar

/-! ## Words -/

/-- Runs of spaces, runs of line breaks, and words. -/
def sameRun (a b : CodePoint) : Bool := (a == ' ') == (b == ' ') && isBreak a == isBreak b

def runs : Text → List Text
  | [] => []
  | c :: s =>
    match runs s with
    | [] => [[c]]
    | run :: rest => if run.head?.any (sameRun c) then (c :: run) :: rest else [c] :: run :: rest

/-! ## Writing -/

/-- Writes runs of a plain scalar. A word that does not fit goes to a new line, and a single space
behind a full line ends it, unless the scalar is a key. -/
def writePlainRuns (margin : Option Nat) (isKey : Bool) : List Text → Pen → Pen
  | [], pen => pen
  | run :: rest, pen =>
    let column := margin.getD 0
    let pen :=
      if run == [chr ' '] && pen.isFull && !isKey && !rest.isEmpty then pen.continueAt column
      else if run.head? != some (chr ' ') && margin.isSome && column < pen.column &&
          Pen.width < pen.column + run.length then
        (pen.indent column).write run
      else pen.write run
    writePlainRuns margin isKey rest { pen with isSpaced := false, isFresh := false }

/-- Writes a plain scalar; nothing for an empty one. -/
def writePlain (margin : Option Nat) (isKey : Bool) (s : Text) (pen : Pen) : Pen :=
  if s.isEmpty then pen
  else
    writePlainRuns margin isKey (runs s)
      { (if pen.isSpaced then pen else pen.write [' ']) with isSpaced := false, isFresh := false }

/-- Writes line breaks inside quotes, with one more in front of a newline, and goes on in the next
line. -/
def writeBreaks (column : Nat) (breaks : Text) (pen : Pen) : Pen :=
  let pen := if breaks.head? == some (chr '\n') then pen.breakLine '\n' else pen
  (breaks.foldl (fun pen c => pen.breakLine c) pen).indent column

/-- Writes the runs of a scalar between single quotes. -/
def writeSingleRuns (column : Nat) (isKey : Bool) (isFirst : Bool) : List Text → Pen → Pen
  | [], pen => pen
  | run :: rest, pen =>
    let pen :=
      if run.head?.any isBreak then writeBreaks column run pen
      else if run == [chr ' '] && pen.isFull && !isKey && !isFirst && !rest.isEmpty then
        pen.indent column
      else pen.write (run.flatMap fun c => if c == chr '\'' then ['\'', '\''] else [c])
    writeSingleRuns column isKey false rest pen

def writeSingle (column : Nat) (isKey : Bool) (s : Text) (pen : Pen) : Pen :=
  (writeSingleRuns column isKey true (runs s) (pen.sign ['\''])).closeSign ['\'']

def capitalHex (width n : Nat) : Text := (Text.hex width n).map CodePoint.toUpper

/-- A character between double quotes: as it is, or as an escape. -/
def writtenChar (c : CodePoint) : Text :=
  let n := c.toNat
  if (0x20 ≤ n && n ≤ 0x7E && c != '"' && c != '\\') ||
      (0xA0 ≤ n && n ≤ 0xFFFD && !isSeparator c && n != 0xFEFF && !c.isLone) then [c]
  else match shortEscape? c with
    | some e => ['\\', e]
    | none =>
      if n ≤ 0xFF then text "\\x" ++ capitalHex 2 n
      else if n ≤ 0xFFFF then text "\\u" ++ capitalHex 4 n
      else text "\\U" ++ capitalHex 8 n
where
  /-- The letter of a short escape. -/
  shortEscape? : CodePoint → Option CodePoint
    | '\x00' => some '0'
    | '\x07' => some 'a'
    | '\x08' => some 'b'
    | '\t' => some 't'
    | '\n' => some 'n'
    | '\x0b' => some 'v'
    | '\x0c' => some 'f'
    | '\r' => some 'r'
    | '\x1b' => some 'e'
    | '"' => some '"'
    | '\\' => some '\\'
    | '\u0085' => some 'N'
    | '\u2028' => some 'L'
    | '\u2029' => some 'P'
    | _ => none

/-- Ends a line between double quotes by a backslash. Another one protects a space that follows. -/
def breakDouble (column : Nat) (next : Option CodePoint) (pen : Pen) : Pen :=
  let pen := (pen.write ['\\']).continueAt column
  if next == some (chr ' ') then pen.write ['\\'] else pen

/-- Writes the characters of a scalar between double quotes. A full line ends at a space or next
to an escape, but not next to the first or the last character. -/
def writeDoubleChars (column : Nat) (isKey isFirst behindEscape : Bool) : Text → Pen → Pen
  | [], pen => pen
  | c :: rest, pen =>
    let isInside := !isKey && !isFirst && !rest.isEmpty
    let written := writtenChar c
    let isEscape := written != [c]
    let pen :=
      if isEscape then
        let pen := pen.write written
        if isInside && Pen.width + 1 < pen.column then breakDouble column rest.head? pen else pen
      else if isInside && (c == ' ' || behindEscape) && pen.isFull then
        (breakDouble column (some c) pen).write written
      else pen.write written
    writeDoubleChars column isKey false isEscape rest pen

def writeDouble (column : Nat) (isKey : Bool) (s : Text) (pen : Pen) : Pen :=
  (writeDoubleChars column isKey true false s (pen.sign ['"'])).closeSign ['"']

/-- Writes a scalar, whose further lines go to a column. -/
def WrittenScalar.write (margin : Option Nat) (inFlow isKey : Bool) (s : WrittenScalar)
    (pen : Pen) : Pen :=
  let s := s.spelled inFlow isKey
  match s.chosenStyle inFlow isKey with
  | .plain => writePlain margin isKey s.content pen
  | .single => writeSingle (margin.getD 0) isKey s.content pen
  | .double => writeDouble (margin.getD 0) isKey s.content pen

end Stencil.Yaml
