import Stencil.Binary64
import Stencil.Text.Digit

/-!
# The shortest decimal of a double

A double is written with the fewest digits that read back as it; of two such decimals the nearer
one is taken, and of two equally near ones the even.
-/

namespace Stencil.Binary64

open Text

/-- The exponent of the first decimal digit of a positive number of steps. -/
def decimalExponent (steps : Nat) : Int :=
  if one ≤ steps then (ofNat (steps / one)).length - 1
  else -(ofNat ((one - 1) / steps)).length

/-- What rounds to `steps`, in quarters of a step, and whether the ends do so too. -/
structure Reach where
  low : Nat
  high : Nat
  closed : Bool

/-- Half a gap to both sides; below a power of two the gap is half as wide. -/
def reach (steps : Nat) : Reach :=
  let g := gap steps
  let below := if steps == Nat.pow 2 steps.log2 && 1 < g then g else 2 * g
  ⟨4 * steps - below, 4 * steps + 2 * g, steps / g % 2 == 0⟩

/-- The decimal `d · 10 ^ exponent` with this exponent that reads back as `steps`, if any. -/
def onGrid? (steps : Nat) (exponent : Int) : Option Nat :=
  let unit := 4 * one * Nat.pow 10 exponent.toNat
  let scale := Nat.pow 10 (-exponent).toNat
  let r := reach steps
  let reads (d : Nat) : Bool :=
    if r.closed then r.low * scale ≤ d * unit && d * unit ≤ r.high * scale
    else r.low * scale < d * unit && d * unit < r.high * scale
  let floor := 4 * steps * scale / unit
  if reads floor && reads (floor + 1) then some (nearest (4 * steps * scale) unit)
  else if reads floor then some floor
  else if reads (floor + 1) then some (floor + 1)
  else none

/-- The digits and the exponent of the last one; 17 digits always suffice. -/
def shortest (steps : Nat) : Nat × Int :=
  let first := decimalExponent steps
  ((List.range 17).findSome? fun (n : Nat) =>
    (onGrid? steps (first - n)).map fun d => (d, first - n)).getD (0, 0)

/-- Digits with their point in front of digit number `place`, filled up with zeros. -/
def positional (digits : Text) (place : Int) : Text :=
  if place ≤ 0 then text "0." ++ List.replicate (-place).toNat (chr '0') ++ digits
  else
    let whole := digits.take place.toNat
    let fraction := digits.drop place.toNat
    whole ++ List.replicate (place.toNat - whole.length) (chr '0') ++ [chr '.'] ++
      (if fraction.isEmpty then [chr '0'] else fraction)

/-- Digits with a point behind the first and a power of ten of at least two digits. -/
def scientific (digits : Text) (exponent : Int) : Text :=
  let size := ofNat exponent.natAbs
  digits.take 1 ++ (if digits.length ≤ 1 then [] else [chr '.'] ++ digits.drop 1) ++
    (if exponent < 0 then text "e-" else text "e+") ++
    List.replicate (2 - size.length) (chr '0') ++ size

/-- A positive number of steps: positional from 10⁻⁴ up to 10¹⁶, else with an exponent. -/
def magnitudeText (steps : Nat) : Text :=
  if steps == 0 then text "0.0"
  else
    let (d, last) := shortest steps
    let all := ofNat d
    let digits := (all.reverse.dropWhile (· == chr '0')).reverse
    let place := all.length + last
    if -4 < place && place ≤ 16 then positional digits place
    else scientific digits (place - 1)

def toText : Binary64 → Text
  | .finite negative steps => (if negative then [chr '-'] else []) ++ magnitudeText steps
  | .infinite negative => (if negative then [chr '-'] else []) ++ text "inf"
  | .nan => text "nan"

end Stencil.Binary64
