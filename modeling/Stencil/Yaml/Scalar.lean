import Stencil.Binary64.Decimal
import Stencil.Value
import Stencil.Yaml.Fault

/-!
# Values of plain scalars

A scalar without quotes is null, a boolean, a number or a text, by the core rules of the format.
Underscores may stand between the digits of a number, which is why one may look like a number and
be none.
-/

namespace Stencil.Yaml

/-- The scalars that are null; nothing at all is one of them. -/
def nullWords : List Text :=
  [[], text "~", text "null", text "Null", text "NULL"]

def trueWords : List Text := [text "true", text "True", text "TRUE"]
def falseWords : List Text := [text "false", text "False", text "FALSE"]
def infinityWords : List Text := [text ".inf", text ".Inf", text ".INF"]
def nanWords : List Text := [text ".nan", text ".NaN", text ".NAN"]

/-- The signs that stand for no value: one for the value of a mapping, one for merging. -/
def signs : List Text := [text "=", text "<<"]

/-! ## Integers -/

/-- The radix that the mark in front of digits writes, and the digits. -/
def radixOf : Text → Nat × Text
  | '0' :: 'b' :: ds => (2, ds)
  | '0' :: 'o' :: ds => (8, ds)
  | '0' :: 'x' :: ds => (16, ds)
  | ds => (10, ds)

/-- Whether a scalar is an integer by its signs: binary, octal and hexadecimal ones have a mark in
front, all others are decimal, leading zeros or not. Underscores may stand between the digits. -/
def isInteger (s : Text) : Bool :=
  let (radix, digits) := radixOf (Decimal.takeSign s).2
  s.head? != some (chr '_') && !digits.isEmpty &&
    digits.all fun c => c == chr '_' || Text.digitValue c < radix

/-- The integer that a scalar writes. Underscores do not count; without any digit there is none. A
decimal one may not be too long. -/
def readInteger (purpose : Purpose) (s : Text) : Except Fault Int :=
  let (negative, rest) := Decimal.takeSign s
  let (radix, digits) := radixOf (rest.filter (· != chr '_'))
  if radix == 10 && maxDigits < digits.length then .error (.number (.tooLong digits.length))
  else match Text.natural? radix digits, purpose with
    | some n, _ => .ok (if negative then -n else n)
    | none, .values => .error (.number (.noDigits radix))
    | none, .rewriting => .error .unfinishedNumber

/-! ## Doubles -/

/-- What a run of digits is made of. -/
def isDigitOrUnderscore (c : CodePoint) : Bool := c.isDigit || c == '_'

/-- An exponent up to the end of the text; a sign may be needed. -/
def isExponent (signed : Bool) : Text → Bool
  | [] => false
  | e :: s =>
    (e == 'e' || e == 'E') &&
      match s with
      | '+' :: ds | '-' :: ds => !ds.isEmpty && ds.all CodePoint.isDigit
      | ds => !signed && !ds.isEmpty && ds.all CodePoint.isDigit

/-- Whether a scalar is a number with a point or an exponent by its signs. Without digits in front
of the point, an exponent needs its sign, and there may be underscores only behind it. -/
def isDouble (s : Text) : Bool :=
  let digits := (Decimal.takeSign s).2
  let whole := digits.takeWhile isDigitOrUnderscore
  match digits.dropWhile isDigitOrUnderscore with
  | '.' :: rest =>
    let fraction := rest.takeWhile isDigitOrUnderscore
    let tail := rest.dropWhile isDigitOrUnderscore
    if whole.isEmpty then !fraction.isEmpty && (tail.isEmpty || isExponent true tail)
    else whole.head?.any CodePoint.isDigit && (tail.isEmpty || isExponent false tail)
  | rest => whole.head?.any CodePoint.isDigit && isExponent false rest

/-- The double that a scalar writes; underscores do not count. -/
def readDouble (s : Text) : Except Fault Binary64 :=
  let digits := s.filter (· != chr '_')
  match Decimal.read? digits with
  | some d => .ok d.toBinary64
  | none => .error (.number (.notDouble ((Decimal.takeSign digits).2.map CodePoint.toLower)))

/-! ## Resolution -/

/-- The value of a plain scalar. A sign has none, unless it is kept to be written again. -/
def resolve (purpose : Purpose) (s : Text) : Except Fault Value :=
  let (negative, rest) := Decimal.takeSign s
  if nullWords.contains s then .ok .null
  else if trueWords.contains s then .ok (.bool true)
  else if falseWords.contains s then .ok (.bool false)
  else if signs.contains s then
    match purpose with
    | .values => .error .malformed
    | .rewriting => .ok (.sign s)
  else if infinityWords.contains rest then .ok (.float (.infinite negative))
  else if nanWords.contains s then .ok (.float .nan)
  else if isDouble s then (readDouble s).map .float
  else if isInteger s then (readInteger purpose s).map .int
  else .ok (.str s)

/-- Whether a plain scalar is nothing but its text. -/
def isPlainText (s : Text) : Bool :=
  match resolve .rewriting s with
  | .ok (.str _) => true
  | _ => false

end Stencil.Yaml
