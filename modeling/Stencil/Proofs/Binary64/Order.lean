import Mathlib.Data.Prod.Lex
import Stencil.Condition.Truth

/-!
# The order of doubles

Doubles that are numbers are ordered by their ranks, which is a linear order. Only what is no number
has no rank, and no decimal is read as that.
-/

namespace Stencil

open Binary64

/-! ## Ranks -/

namespace Binary64

variable {x y : Binary64} {a b : Int × Int}

theorem less_iff (hx : x.rank? = some a) (hy : y.rank? = some b) :
    x.less y = true ↔ toLex a < toLex b := by
  unfold less
  rw [hx, hy, Prod.Lex.toLex_lt_toLex]
  simp

theorem same_iff (hx : x.rank? = some a) (hy : y.rank? = some b) :
    x.same y = true ↔ toLex a = toLex b := by
  unfold same
  rw [hx, hy, toLex_inj, Prod.ext_iff]
  simp

theorem exists_rank?_ofRatio (negative : Bool) (num den : Nat) :
    ∃ a, (ofRatio negative num den).rank? = some a := by
  unfold ofRatio
  dsimp only
  split <;> exact ⟨_, rfl⟩

end Binary64

theorem Decimal.exists_rank? (d : Decimal) : ∃ a, d.toBinary64.rank? = some a := by
  unfold toBinary64
  dsimp only
  split
  · exact ⟨_, rfl⟩
  · split
    · exact ⟨_, rfl⟩
    · split <;> exact exists_rank?_ofRatio _ _ _

theorem Numeral.exists_rank? {s : Text} {x : Binary64} (h : number s = .ok (some x)) :
    ∃ a, x.rank? = some a := by
  unfold number at h
  split at h
  · cases h
  · next d _ =>
    split at h
    · cases h
    · obtain rfl : d.toBinary64 = x := by simpa using h
      exact d.exists_rank?

/-! ## Comparisons -/

namespace Comparison

variable {op : Comparison} {α β : Type} [LinearOrder α] [LinearOrder β] {a b : α}

/-- What a comparison says about the places of two things in an order. -/
def Orders (op : Comparison) (a b : α) : Prop :=
  match op with
  | equal => a = b
  | unequal => a ≠ b
  | greater => b < a
  | greaterOrEqual => b ≤ a
  | less => a < b
  | lessOrEqual => a ≤ b

instance (op : Comparison) (a b : α) : Decidable (op.Orders a b) :=
  match op with
  | equal => inferInstanceAs (Decidable (a = b))
  | unequal => inferInstanceAs (Decidable (a ≠ b))
  | greater => inferInstanceAs (Decidable (b < a))
  | greaterOrEqual => inferInstanceAs (Decidable (b ≤ a))
  | less => inferInstanceAs (Decidable (a < b))
  | lessOrEqual => inferInstanceAs (Decidable (a ≤ b))

theorem holds_iff {x y : Binary64} {a b : Int × Int} (hx : x.rank? = some a)
    (hy : y.rank? = some b) : op.holds x y = true ↔ op.Orders (toLex a) (toLex b) := by
  have hsame := same_iff hx hy
  have hless := less_iff hx hy
  have hgreater := less_iff hy hx
  cases op with
  | equal => exact hsame
  | unequal => simpa [holds, Orders] using hsame.not
  | greater => exact hgreater
  | less => exact hless
  | greaterOrEqual =>
    rw [holds, Bool.or_eq_true, hsame, hgreater, Orders, le_iff_lt_or_eq, eq_comm]
  | lessOrEqual => rw [holds, Bool.or_eq_true, hsame, hless, Orders, le_iff_lt_or_eq]

theorem orders_of_strictMono {f : α → β} (hf : StrictMono f) :
    op.Orders (f a) (f b) ↔ op.Orders a b := by
  cases op with
  | equal => exact hf.injective.eq_iff
  | unequal => exact hf.injective.ne_iff
  | greater => exact hf.lt_iff_lt
  | greaterOrEqual => exact hf.le_iff_le
  | less => exact hf.lt_iff_lt
  | lessOrEqual => exact hf.le_iff_le

/-- A map that may only make things equal changes what a comparison says nowhere else. -/
theorem orders_of_monotone {f : α → β} (hf : Monotone f) :
    op.Orders (f a) (f b) ↔ if f a = f b then op.Orders a a else op.Orders a b := by
  split
  · next heq => cases op <;> simp [Orders, heq]
  · next hne =>
    have hab : a ≠ b := fun h => hne (congrArg f h)
    have hlt : f a < f b ↔ a < b :=
      ⟨fun h => hf.reflect_lt h, fun h => (hf h.le).lt_of_ne hne⟩
    have hgt : f b < f a ↔ b < a :=
      ⟨fun h => hf.reflect_lt h, fun h => (hf h.le).lt_of_ne (Ne.symm hne)⟩
    cases op with
    | equal => exact iff_of_false hne hab
    | unequal => exact iff_of_true hne hab
    | greater => exact hgt
    | greaterOrEqual => simpa only [Orders, not_lt] using hlt.not
    | less => exact hlt
    | lessOrEqual => simpa only [Orders, not_lt] using hgt.not

end Comparison

end Stencil
