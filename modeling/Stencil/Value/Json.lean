import Stencil.Value
import Stencil.Binary64.Decimal

/-!
# Reading JSON

A number with a fraction or an exponent is a double, any other an integer. Besides the standard's
literals, `NaN`, `Infinity` and `-Infinity` are read.
-/

namespace Stencil.Json

inductive Fault where
  | malformed
  /-- A number has more digits than are read. -/
  | number (e : ConversionError)
  deriving DecidableEq, Repr

def isSpace (c : CodePoint) : Bool := c == ' ' || c == '\t' || c == '\n' || c == '\r'

def skipSpace (s : Text) : Text := s.dropWhile isSpace

/-! ## Strings -/

def escape? : CodePoint → Option CodePoint
  | '"' => some '"'
  | '\\' => some '\\'
  | '/' => some '/'
  | 'b' => some '\x08'
  | 'f' => some '\x0c'
  | 'n' => some '\n'
  | 'r' => some '\r'
  | 't' => some '\t'
  | _ => none

/-- The code points of a string up to its closing quote, each escape as one of its own, and what
follows. -/
def readPoints : Text → Option (Text × Text)
  | [] => none
  | '"' :: s => some ([], s)
  | '\\' :: 'u' :: a :: b :: c :: d :: s => do
    let n ← Text.natural? 16 [a, b, c, d]
    let (points, rest) ← readPoints s
    return (.ofNat n :: points, rest)
  | '\\' :: c :: s => do
    let e ← escape? c
    let (points, rest) ← readPoints s
    return (e :: points, rest)
  | c :: s =>
    if c.toNat < 0x20 then none
    else do
      let (points, rest) ← readPoints s
      return (c :: points, rest)

/-- Joins the two halves of surrogate pairs. A half that stands alone stays; in the text of a file
there are none but those of escapes. -/
def joinPairs : Text → Text
  | .lone n :: .lone m :: s =>
    if n < 0x400 && 0x400 ≤ m.val then
      .ofNat (0x10000 + n * 0x400 + (m - 0x400)) :: joinPairs s
    else .lone n :: joinPairs (.lone m :: s)
  | c :: s => c :: joinPairs s
  | [] => []

/-- A string behind its opening quote, and what follows it. -/
def readString (s : Text) : Except Fault (Text × Text) :=
  match readPoints s with
  | none => .error .malformed
  | some (points, rest) => .ok (joinPairs points, rest)

/-! ## Numbers -/

/-- The digits in front of the point. A leading zero stands alone. -/
def takeWhole : Text → Text × Text
  | '0' :: s => (['0'], s)
  | s => (s.takeWhile CodePoint.isDigit, s.dropWhile CodePoint.isDigit)

/-- The point with the digits behind it, if both are there. -/
def takeFraction : Text → Text × Text
  | '.' :: s =>
    let digits := s.takeWhile CodePoint.isDigit
    if digits.isEmpty then ([], '.' :: s) else ('.' :: digits, s.dropWhile CodePoint.isDigit)
  | s => ([], s)

/-- The exponent with its digits, if both are there. -/
def takeExponent : Text → Text × Text
  | [] => ([], [])
  | e :: s =>
    if e == 'e' || e == 'E' then
      let sign := s.take 1 |>.filter fun c => c == chr '+' || c == chr '-'
      let s' := s.drop sign.length
      let digits := s'.takeWhile CodePoint.isDigit
      if digits.isEmpty then ([], e :: s)
      else (e :: sign ++ digits, s'.dropWhile CodePoint.isDigit)
    else ([], e :: s)

/-- A number at the front of the text. -/
def readNumber (s : Text) : Except Fault (Value × Text) :=
  let negative := s.head? == some (chr '-')
  let (whole, s) := takeWhole (if negative then s.drop 1 else s)
  let (fraction, s) := takeFraction s
  let (exponent, s) := takeExponent s
  if whole.isEmpty then .error .malformed
  else if fraction.isEmpty && exponent.isEmpty then
    if maxDigits < whole.length then .error (.number (.tooLong whole.length))
    else
      let n := (Text.decimalNumber? whole).getD 0
      .ok (.int (if negative then -n else n), s)
  else match Decimal.read? (whole ++ fraction ++ exponent) with
    | none => .error .malformed
    | some d => .ok (.float { d with negative := negative }.toBinary64, s)

/-! ## Values -/

def words : List (Text × Value) :=
  [(text "null", .null), (text "true", .bool true), (text "false", .bool false),
   (text "NaN", .float .nan), (text "Infinity", .float (.infinite false)),
   (text "-Infinity", .float (.infinite true))]

/-- A word at the front of the text. -/
def readWord (s : Text) : Option (Value × Text) :=
  words.findSome? fun w => (Text.after? w.1 s).map fun rest => (w.2, rest)

mutual

/-- A value at the front of the text; every call takes one unit of `fuel`. -/
def readValue : (fuel : Nat) → Text → Except Fault (Value × Text)
  | 0, _ => .error .malformed
  | _ + 1, [] => .error .malformed
  | fuel + 1, c :: s =>
    if c == '"' then do
      let (t, rest) ← readString s
      return (.str t, rest)
    else if c == '[' then
      match skipSpace s with
      | ']' :: rest => .ok (.list [], rest)
      | s => do
        let (vs, rest) ← readItems fuel s
        return (.list vs, rest)
    else if c == '{' then
      match skipSpace s with
      | '}' :: rest => .ok (.object [], rest)
      | s => do
        let (fs, rest) ← readFields fuel s
        return (.object (Fields.ofPairs fs), rest)
    else match readWord (c :: s) with
      | some found => .ok found
      | none => readNumber (c :: s)

/-- The items of a list up to its closing bracket. -/
def readItems : (fuel : Nat) → Text → Except Fault (List Value × Text)
  | 0, _ => .error .malformed
  | fuel + 1, s => do
    let (v, s) ← readValue fuel s
    match skipSpace s with
    | ',' :: s =>
      let (vs, rest) ← readItems fuel (skipSpace s)
      return (v :: vs, rest)
    | ']' :: rest => return ([v], rest)
    | _ => .error .malformed

/-- The fields of a mapping up to its closing brace, repeated keys included. -/
def readFields : (fuel : Nat) → Text → Except Fault (List (Text × Value) × Text)
  | 0, _ => .error .malformed
  | fuel + 1, s =>
    match s with
    | '"' :: s => do
      let (key, s) ← readString s
      match skipSpace s with
      | ':' :: s =>
        let (v, s) ← readValue fuel (skipSpace s)
        match skipSpace s with
        | ',' :: s =>
          let (fs, rest) ← readFields fuel (skipSpace s)
          return ((key, v) :: fs, rest)
        | '}' :: rest => return ([(key, v)], rest)
        | _ => .error .malformed
      | _ => .error .malformed
    | _ => .error .malformed

end

def read (s : Text) : Except Fault Value := do
  let (v, rest) ← readValue (2 * s.length + 1) (skipSpace s)
  if (skipSpace rest).isEmpty then return v else .error .malformed

end Stencil.Json
