import Stencil.Binary64.Decimal
import Stencil.Conversion

/-!
# Numerals

Numbers read out of texts: the index of a list item and the operand of a comparison. A text may
look like a number and still be none; that is an error, not a missing number.
-/

namespace Stencil

namespace Numeral

open Text

/-- The index that a text writes: `none` unless it has digits only. -/
def index (s : Text) : Except ConversionError (Option Nat) :=
  if s.isEmpty || !s.all isDigit then .ok none
  else
    let leading := (s.takeWhile isDecimal).length
    if maxDigits < leading then .error (.tooLong leading)
    else match decimalNumber? s with
      | some n => .ok (some n)
      | none => .error (.notDecimal s)

/-- A control that separates files, groups, records or units: a blank that no number takes. -/
def isSeparator (c : CodePoint) : Bool := 0x1C ≤ c.toNat && c.toNat ≤ 0x1F

/-- A separator with nothing but blanks in front of it. -/
def startsSeparated (s : Text) : Bool := (s.takeWhile isBlank).any isSeparator

/-- The number that a text writes, blanks at its ends aside; `none` if it writes none. -/
def number (s : Text) : Except ConversionError (Option Binary64) :=
  match Decimal.read? (trim s) with
  | none => .ok none
  | some d =>
    if startsSeparated s || startsSeparated s.reverse then .error (.notDouble s)
    else .ok (some d.toBinary64)

end Numeral

end Stencil
