/-!
# Code points

Texts are made of code points: characters, and halves of surrogate pairs that stand alone. Such a
half is no character, so that no file can hold it, but an escape in a document can write it.
-/

namespace Stencil

/-- A character, or half of a surrogate pair without the other half. -/
inductive CodePoint where
  | chr (c : Char)
  | lone (n : Fin 0x800)
  deriving DecidableEq, Repr

export CodePoint (chr)

namespace CodePoint

instance : Coe Char CodePoint := ⟨chr⟩

/-! ## Numbers -/

/-- The first number of a half. -/
def firstHalf : Nat := 0xD800

def toNat : CodePoint → Nat
  | chr c => c.toNat
  | lone n => firstHalf + n

/-- The code point with a number; beyond the last one there is only the zero character. -/
def ofNat (n : Nat) : CodePoint :=
  if h : firstHalf ≤ n ∧ n < firstHalf + 0x800 then lone ⟨n - firstHalf, by omega⟩
  else chr (Char.ofNat n)

@[simp] theorem toNat_chr (c : Char) : (chr c).toNat = c.toNat := rfl

theorem ofNat_toNat (c : CodePoint) : ofNat c.toNat = c := by
  cases c with
  | chr c =>
    have hvalid : ¬(firstHalf ≤ c.toNat ∧ c.toNat < firstHalf + 0x800) := by
      have hc : c.toNat.isValidChar := c.valid
      unfold Nat.isValidChar at hc
      unfold firstHalf
      omega
    rw [toNat_chr, ofNat, dif_neg hvalid, Char.ofNat_toNat]
  | lone n =>
    simp [ofNat, toNat]

theorem toNat_ofNat {n : Nat} (h : n < 0x110000) : (ofNat n).toNat = n := by
  unfold ofNat
  split
  · next hn => simp [toNat, hn.1]
  · next hn =>
    have hvalid : n.isValidChar := by
      unfold firstHalf at hn
      unfold Nat.isValidChar
      omega
    rw [toNat_chr, Char.ofNat, dif_pos hvalid]
    rfl

theorem toNat_inj {c d : CodePoint} : c.toNat = d.toNat ↔ c = d :=
  ⟨fun h => by rw [← ofNat_toNat c, h, ofNat_toNat], fun h => h ▸ rfl⟩

def isLone : CodePoint → Bool
  | chr _ => false
  | lone _ => true

/-! ## Latin letters and digits -/

def isDigit (c : CodePoint) : Bool := 48 ≤ c.toNat && c.toNat ≤ 57

def isUpper (c : CodePoint) : Bool := 65 ≤ c.toNat && c.toNat ≤ 90

def isLower (c : CodePoint) : Bool := 97 ≤ c.toNat && c.toNat ≤ 122

theorem isDigit_iff {c : CodePoint} : c.isDigit = true ↔ 48 ≤ c.toNat ∧ c.toNat ≤ 57 := by
  rw [isDigit, Bool.and_eq_true, decide_eq_true_eq, decide_eq_true_eq]

theorem isUpper_iff {c : CodePoint} : c.isUpper = true ↔ 65 ≤ c.toNat ∧ c.toNat ≤ 90 := by
  rw [isUpper, Bool.and_eq_true, decide_eq_true_eq, decide_eq_true_eq]

theorem isLower_iff {c : CodePoint} : c.isLower = true ↔ 97 ≤ c.toNat ∧ c.toNat ≤ 122 := by
  rw [isLower, Bool.and_eq_true, decide_eq_true_eq, decide_eq_true_eq]

def isAlphanum (c : CodePoint) : Bool := c.isUpper || c.isLower || c.isDigit

def toLower (c : CodePoint) : CodePoint := if c.isUpper then ofNat (c.toNat + 32) else c

def toUpper (c : CodePoint) : CodePoint := if c.isLower then ofNat (c.toNat - 32) else c

end CodePoint

end Stencil
