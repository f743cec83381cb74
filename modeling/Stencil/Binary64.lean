/-!
# Doubles

Every finite double is a whole number of steps of 2⁻¹⁰⁷⁴, so a double is kept as a sign and that
number. Order and equality are those of integers, and rounding is one division.
-/

namespace Stencil

/-- A double. The sign is kept apart, for zero has two. -/
inductive Binary64 where
  | finite (negative : Bool) (steps : Nat)
  | infinite (negative : Bool)
  | nan
  deriving DecidableEq, Repr

namespace Binary64

/-- How many steps make one. -/
def one : Nat := Nat.pow 2 1074

/-! ## Order -/

/-- The number of steps with its sign. -/
def signed (negative : Bool) (steps : Nat) : Int := if negative then -steps else steps

/-- Where a double stands: below, among or above the finite ones, and where among them. -/
def rank? : Binary64 → Option (Int × Int)
  | .finite negative steps => some (0, signed negative steps)
  | .infinite negative => some (signed negative 1, 0)
  | .nan => none

/-- Order of numbers; what is no number stands in none. -/
def less (x y : Binary64) : Bool :=
  match rank? x, rank? y with
  | some a, some b => a.1 < b.1 || (a.1 == b.1 && a.2 < b.2)
  | _, _ => false

/-- Equality of numbers: the two zeros are equal, and what is no number equals nothing. -/
def same (x y : Binary64) : Bool :=
  match rank? x, rank? y with
  | some a, some b => a.1 == b.1 && a.2 == b.2
  | _, _ => false

/-- Whether the double is one of the two zeros. -/
def isZero : Binary64 → Bool
  | .finite _ steps => steps == 0
  | _ => false

/-- The integer that the double is, if it is one. -/
def integer? : Binary64 → Option Int
  | .finite negative steps =>
    if steps % one == 0 then some (signed negative (steps / one)) else none
  | _ => none

/-! ## Rounding -/

/-- The integer nearest to `num / den`; a half goes to the even one. -/
def nearest (num den : Nat) : Nat :=
  let q := num / den
  let r := num % den
  if 2 * r < den then q else if den < 2 * r then q + 1 else q + q % 2

/-- The distance between neighbouring doubles at `steps`: 53 binary digits are kept. -/
def gap (steps : Nat) : Nat := Nat.pow 2 (steps.log2 - 52)

/-- The double nearest to `num / den`. -/
def ofRatio (negative : Bool) (num den : Nat) : Binary64 :=
  let n := num * one
  let g := gap (n / den)
  let steps := nearest n (den * g) * g
  if steps < Nat.pow 2 1024 * one then .finite negative steps else .infinite negative

end Binary64

end Stencil
