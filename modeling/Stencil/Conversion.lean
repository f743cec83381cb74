import Stencil.Text.Digit
import Stencil.Text.Quoted

/-!
# Conversions

Values are turned into texts and texts into numbers. Neither always works: a text may look like a
number and be none, and a value may have no text.
-/

namespace Stencil

/-- Why a text cannot be read as a number, or a value cannot be written. -/
inductive ConversionError where
  /-- It has digits that are not decimal, such as superscripts. -/
  | notDecimal (s : Text)
  /-- It has no digit of its radix at all. -/
  | noDigits (radix : Nat)
  /-- It has more digits than are read. -/
  | tooLong (digits : Nat)
  /-- It is no double, though it is made of the signs of one. -/
  | notDouble (s : Text)
  /-- It is an integer with more digits than are written. -/
  | tooLongToWrite
  /-- It has no JSON text. -/
  | noJson
  /-- It stands in itself, so there is no end to it. -/
  | endless
  deriving DecidableEq, Repr

namespace ConversionError

/-- How many characters of a faulty integer are shown. -/
def shownLength : Nat := 200

/-- What is said about an integer with too many digits; `detail` tells how many there are. -/
def limitMessage (detail : Text) : Text :=
  text "Exceeds the limit (4300 digits) for integer string conversion" ++ detail ++
    text "; use sys.set_int_max_str_digits() to increase the limit"

def message : ConversionError → Text
  | notDecimal s =>
    text "invalid literal for int() with base 10: " ++ (Text.quoted s).take shownLength
  | noDigits radix => text "invalid literal for int() with base " ++ Text.ofNat radix ++ text ": ''"
  | tooLong digits => limitMessage (text ": value has " ++ Text.ofNat digits ++ text " digits")
  | notDouble s => text "could not convert string to float: " ++ Text.quoted s
  | tooLongToWrite => limitMessage []
  | noJson => text "Object of type TaggedScalar is not JSON serializable"
  | endless => text "maximum recursion depth exceeded"

def kind : ConversionError → String
  | noJson => "TypeError"
  | endless => "RecursionError"
  | _ => "ValueError"

end ConversionError

/-- The most digits that an integer may have when it is read or written. -/
def maxDigits : Nat := 4300

/-- Whether an integer has more digits than are written. -/
def isTooLong (n : Int) : Bool := decide (Nat.pow 10 maxDigits ≤ n.natAbs)

end Stencil
