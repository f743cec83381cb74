import Stencil.Yaml.Cursor

/-!
# Quoted scalars

A line break inside quotes is folded: the blanks around it fall away, one break becomes a space,
and of several all but one stay. What an escape writes is never folded. No marker of a document
may start a line inside quotes.
-/

namespace Stencil.Yaml

/-- A part of a quoted scalar: a character as it stands, one that an escape writes, a line break,
or an escaped line break, which joins two lines. -/
inductive Part where
  | plain (c : CodePoint)
  | escaped (c : CodePoint)
  | lineBreak (c : CodePoint)
  | join
  deriving DecidableEq, Repr

/-! ## Folding -/

/-- What a gap between lines becomes with one more line break in it. A separator stays. -/
def widenGap (c : CodePoint) : Option Text → Text
  | none => if c == '\n' then [chr ' '] else [c]
  | some gap => if gap == [chr ' '] then [c] else gap ++ [c]

/-- Folds the parts. `pending` are blanks that fall away if the line ends behind them, and `gap`
is what the line breaks met last become, if nothing has followed them yet. -/
def fold (pending : Text) (gap : Option Text) : List Part → Text
  | [] => gap.getD pending
  | .lineBreak c :: parts => fold [] (some (widenGap c gap)) parts
  | .plain c :: parts =>
    if isInlineBlank c then
      if gap.isSome then fold [] gap parts else fold (pending ++ [c]) none parts
    else gap.getD pending ++ [c] ++ fold [] none parts
  | .escaped c :: parts => gap.getD pending ++ [c] ++ fold [] none parts
  | .join :: parts => gap.getD pending ++ fold [] (some []) parts

/-! ## Escapes -/

def escape? : CodePoint → Option CodePoint
  | '0' => some '\x00'
  | 'a' => some '\x07'
  | 'b' => some '\x08'
  | 't' => some '\t'
  | '\t' => some '\t'
  | 'n' => some '\n'
  | 'v' => some '\x0b'
  | 'f' => some '\x0c'
  | 'r' => some '\r'
  | 'e' => some '\x1b'
  | ' ' => some ' '
  | '"' => some '"'
  | '/' => some '/'
  | '\\' => some '\\'
  | 'N' => some '\u0085'
  | '_' => some '\u00a0'
  | 'L' => some '\u2028'
  | 'P' => some '\u2029'
  | _ => none

/-- The part that a code writes in hexadecimal. -/
def codePart (digits : Text) : Except Fault Part :=
  match Text.natural? 16 digits with
  | none => .error .malformed
  | some code =>
    if 0x10FFFF < code then .error (.noCharacter code) else .ok (.escaped (.ofNat code))

/-- The part that an escape without a code writes. At the letter of a code, the text has ended
too early if nothing but digits follow. -/
def letterPart (atEnd : Fault) (c : CodePoint) (rest : Text) : Except Fault Part :=
  match escape? c with
  | some c => .ok (.escaped c)
  | none =>
    let hasCode := c == 'x' || c == 'u' || c == 'U'
    .error (if hasCode && rest.all (Text.digitValue · < 16) then atEnd else .malformed)

/-! ## Parts -/

/-- A character as it stands, or the line break that it makes. -/
def Part.ofChar (c : CodePoint) : Part :=
  if isLineEnd c then .lineBreak '\n' else if isSeparator c then .lineBreak c else .plain c

def Part.endsLine : Part → Bool
  | lineBreak _ | join => true
  | _ => false

/-- Puts a part in front of those read from `rest`. No marker may follow the end of a line. -/
def pushPart (part : Part) (rest : Text) (tail : Except Fault (List Part × Text)) :
    Except Fault (List Part × Text) :=
  if part.endsLine && startsMarked rest then .error .malformed
  else tail.map fun (parts, rest) => (part :: parts, rest)

/-- The parts up to the closing single quote, and what follows; a quote inside is written twice.
A text that ends too early has the fault `atEnd`. -/
def singleParts (atEnd : Fault) : Text → Except Fault (List Part × Text)
  | [] => .error atEnd
  | '\'' :: '\'' :: s => pushPart (.escaped '\'') s (singleParts atEnd s)
  | '\'' :: s => .ok ([], s)
  | '\r' :: '\n' :: s => pushPart (.lineBreak '\n') s (singleParts atEnd s)
  | c :: s => pushPart (.ofChar c) s (singleParts atEnd s)

/-- The parts up to the closing double quote, and what follows. -/
def doubleParts (atEnd : Fault) : Text → Except Fault (List Part × Text)
  | [] => .error atEnd
  | '"' :: s => .ok ([], s)
  | '\\' :: 'x' :: a :: b :: s => do
    pushPart (← codePart [a, b]) s (doubleParts atEnd s)
  | '\\' :: 'u' :: a :: b :: c :: d :: s => do
    pushPart (← codePart [a, b, c, d]) s (doubleParts atEnd s)
  | '\\' :: 'U' :: a :: b :: c :: d :: e :: f :: g :: h :: s => do
    pushPart (← codePart [a, b, c, d, e, f, g, h]) s (doubleParts atEnd s)
  | '\\' :: '\r' :: '\n' :: s => pushPart .join s (doubleParts atEnd s)
  | '\\' :: c :: s =>
    if isLineEnd c || isSeparator c then pushPart .join s (doubleParts atEnd s)
    else do pushPart (← letterPart atEnd c s) s (doubleParts atEnd s)
  | '\r' :: '\n' :: s => pushPart (.lineBreak '\n') s (doubleParts atEnd s)
  | c :: s => if c == '\\' then .error atEnd else pushPart (.ofChar c) s (doubleParts atEnd s)

/-- The text of a quoted scalar, behind its opening quote, and what follows it. -/
def readQuoted (quote : CodePoint) (atEnd : Fault) (s : Text) : Except Fault (Text × Text) :=
  (if quote == '"' then doubleParts atEnd s else singleParts atEnd s).map fun (parts, rest) =>
    (fold [] none parts, rest)

end Stencil.Yaml
