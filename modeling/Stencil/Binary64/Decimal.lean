import Stencil.Binary64
import Stencil.Text.Digit

/-!
# Decimals

Numbers as they are written: a sign, digits, a point, a power of ten. The digits may be of any
script.
-/

namespace Stencil

/-- The number `± digits · 10 ^ exponent`. -/
structure Decimal where
  negative : Bool
  digits : Nat
  exponent : Int
  deriving DecidableEq, Repr

namespace Decimal

open Text

/-- A sign in front, if there is one, and the rest. -/
def takeSign : Text → Bool × Text
  | '-' :: s => (true, s)
  | '+' :: s => (false, s)
  | s => (false, s)

/-- The power of ten at the end of a number; nothing may follow it. -/
def readExponent? : Text → Option Int
  | [] => some 0
  | c :: s =>
    if c == 'e' || c == 'E' then
      let (negative, digits) := takeSign s
      if digits.isEmpty then none
      else (decimalNumber? digits).map fun n => if negative then -n else n
    else none

/-- Reads digits with an optional sign, point and exponent; no digit but the exponent's own may
be missing on both sides of the point. -/
def read? (s : Text) : Option Decimal :=
  let (negative, s) := takeSign s
  let whole := s.takeWhile isDecimal
  let rest := s.dropWhile isDecimal
  let (fraction, rest) := match rest with
    | '.' :: r => (r.takeWhile isDecimal, r.dropWhile isDecimal)
    | r => ([], r)
  if whole.isEmpty && fraction.isEmpty then none
  else do
    let exponent ← readExponent? rest
    let digits ← decimalNumber? (whole ++ fraction)
    return ⟨negative, digits, exponent - fraction.length⟩

/-- The nearest double. Powers of ten far out of range are not computed. -/
def toBinary64 (d : Decimal) : Binary64 :=
  let size := (ofNat d.digits).length + d.exponent
  if d.digits == 0 || size < -330 then .finite d.negative 0
  else if 310 < size then .infinite d.negative
  else if 0 ≤ d.exponent then .ofRatio d.negative (d.digits * Nat.pow 10 d.exponent.toNat) 1
  else .ofRatio d.negative d.digits (Nat.pow 10 (-d.exponent).toNat)

end Decimal

end Stencil
