import Mathlib.Data.Nat.Dist
import Mathlib.Order.Monotone.Basic
import Mathlib.Tactic.Ring
import Stencil.Binary64.Decimal
import Stencil.Proofs.Numeral

/-!
# Integers as doubles

An integer becomes the double nearest to it. Up to 2⁵³ it stays what it is; further out its last
binary digits are lost, and from some point on it is infinite. Order is kept, but not strictly.
-/

namespace Stencil.Binary64

variable {a b c d k : Nat}

/-! ## The nearest integer to a quotient -/

theorem nearest_cases (a d : Nat) :
    (nearest a d = a / d ∧ 2 * (a % d) ≤ d) ∨ (nearest a d = a / d + 1 ∧ d ≤ 2 * (a % d)) := by
  unfold nearest
  dsimp only
  split_ifs <;> omega

theorem even_nearest (h : 2 * (a % d) = d) : nearest a d % 2 = 0 := by
  unfold nearest
  dsimp only
  split_ifs <;> omega

theorem nearest_mul_of_dvd (hd : 0 < d) (h : d ∣ a) : nearest a d * d = a := by
  obtain ⟨k, rfl⟩ := h
  have hmod : d * k % d = 0 := Nat.mul_mod_right d k
  rcases nearest_cases (d * k) d with ⟨heq, -⟩ | ⟨-, hhalf⟩
  · rw [heq, Nat.mul_div_cancel_left k hd, Nat.mul_comm]
  · omega

theorem nearest_mul_mul_right (hc : 0 < c) (a d : Nat) :
    nearest (a * c) (d * c) = nearest a d := by
  have hdouble : 2 * (a % d * c) = 2 * (a % d) * c := (Nat.mul_assoc _ _ _).symm
  unfold nearest
  simp only [Nat.mul_div_mul_right _ _ hc, Nat.mul_mod_mul_right, hdouble,
    Nat.mul_lt_mul_right hc]

theorem nearest_mono (h : a ≤ b) : nearest a d ≤ nearest b d := by
  have hdiv : a / d ≤ b / d := Nat.div_le_div_right h
  rcases hdiv.lt_or_eq with hlt | heq
  · rcases nearest_cases a d with ⟨ha, -⟩ | ⟨ha, -⟩ <;>
      rcases nearest_cases b d with ⟨hb, -⟩ | ⟨hb, -⟩ <;> omega
  · have hmod : a % d ≤ b % d := by
      have ha := Nat.div_add_mod a d
      have hb := Nat.div_add_mod b d
      rw [heq] at ha
      omega
    unfold nearest
    dsimp only
    rw [heq]
    split_ifs <;> omega

theorem le_nearest (hd : 0 < d) (h : k * d ≤ a) : k ≤ nearest a d := by
  have hmono := @nearest_mono _ _ d h
  have hself := nearest_mul_of_dvd hd (Nat.dvd_mul_left d k)
  rwa [Nat.eq_of_mul_eq_mul_right hd hself] at hmono

theorem nearest_le (hd : 0 < d) (h : a ≤ k * d) : nearest a d ≤ k := by
  have hmono := @nearest_mono _ _ d h
  have hself := nearest_mul_of_dvd hd (Nat.dvd_mul_left d k)
  rwa [Nat.eq_of_mul_eq_mul_right hd hself] at hmono

/-- Another multiple is farther off, or as far off and then the one that is taken is even. -/
theorem dist_nearest (hd : 0 < d) (hk : k ≠ nearest a d) :
    a.dist (nearest a d * d) < a.dist (k * d) ∨
      (a.dist (nearest a d * d) = a.dist (k * d) ∧ nearest a d % 2 = 0) := by
  have hdiv := Nat.div_add_mod a d
  have hmod := Nat.mod_lt a hd
  have heven := @even_nearest a d
  rw [Nat.mul_comm] at hdiv
  -- The multiples around `a` are those of the quotient and of the number after it.
  have hside : (k < a / d ∧ k * d + d ≤ a / d * d) ∨ (k = a / d ∧ k * d = a / d * d) ∨
      (k = a / d + 1 ∧ k * d = a / d * d + d) ∨ a / d * d + 2 * d ≤ k * d := by
    rcases Nat.lt_trichotomy k (a / d) with hlt | rfl | hgt
    · have hle := Nat.mul_le_mul_right d hlt
      rw [Nat.succ_mul] at hle
      exact .inl ⟨hlt, hle⟩
    · exact .inr (.inl ⟨rfl, rfl⟩)
    · have hnext := Nat.succ_mul (a / d) d
      rcases Nat.eq_or_lt_of_le hgt with rfl | hfar
      · exact .inr (.inr (.inl ⟨rfl, hnext⟩))
      · have hle := Nat.mul_le_mul_right d hfar
        rw [Nat.succ_mul, hnext] at hle
        omega
  unfold Nat.dist
  rcases nearest_cases a d with ⟨heq, hhalf⟩ | ⟨heq, hhalf⟩
  · rw [heq] at hk heven ⊢
    omega
  · have hnext := Nat.succ_mul (a / d) d
    rw [heq, hnext]
    rw [heq] at hk heven
    omega

/-! ## Whole numbers with 53 binary digits -/

/-- The number with 53 binary digits, and zeros behind them, that is nearest to `k`. -/
def keep (k : Nat) : Nat := nearest k (gap k) * gap k

/-- Whether a number has at most `d` binary digits, the zeros at its end aside. -/
def HasDigits (d x : Nat) : Prop := ∃ k e, k < 2 ^ d ∧ x = k * 2 ^ e

theorem gap_eq (k : Nat) : gap k = 2 ^ (k.log2 - 52) := Nat.pow_eq

theorem gap_pos (k : Nat) : 0 < gap k := by
  rw [gap_eq]
  exact Nat.two_pow_pos _

theorem keep_of_dvd (h : gap k ∣ k) : keep k = k := nearest_mul_of_dvd (gap_pos k) h

theorem keep_of_log2_le (h : k.log2 ≤ 52) : keep k = k := by
  have hgap : gap k = 1 := by rw [gap_eq, Nat.sub_eq_zero_of_le h, Nat.pow_zero]
  exact keep_of_dvd (hgap ▸ Nat.one_dvd k)

theorem keep_two_pow (e : Nat) : keep (2 ^ e) = 2 ^ e := by
  refine keep_of_dvd ?_
  rw [gap_eq, Nat.log2_two_pow]
  exact Nat.pow_dvd_pow 2 (Nat.sub_le e 52)

theorem keep_of_le (h : k ≤ 2 ^ 53) : keep k = k := by
  rcases h.lt_or_eq with hlt | rfl
  · rcases Nat.eq_zero_or_pos k with rfl | hpos
    · exact keep_of_log2_le (by decide)
    · have hlog : k.log2 < 53 := (Nat.log2_lt hpos.ne').2 hlt
      exact keep_of_log2_le (by omega)
  · exact keep_two_pow 53

theorem two_pow_log2 (h : 52 ≤ k.log2) :
    2 ^ 52 * gap k ≤ k ∧ k ≤ 2 ^ 53 * gap k ∧ 2 ^ 52 * gap k = 2 ^ k.log2 ∧
      2 ^ 53 * gap k = 2 ^ (k.log2 + 1) := by
  have hne : k ≠ 0 := by
    rintro rfl
    exact absurd h (by decide)
  have hlow : 2 ^ 52 * gap k = 2 ^ k.log2 := by
    rw [gap_eq, ← Nat.pow_add, Nat.add_sub_cancel' h]
  have hhigh : 2 ^ 53 * gap k = 2 ^ (k.log2 + 1) := by
    rw [gap_eq, ← Nat.pow_add]
    congr 1
    omega
  refine ⟨?_, ?_, hlow, hhigh⟩
  · rw [hlow]
    exact Nat.log2_self_le hne
  · rw [hhigh]
    exact Nat.lt_log2_self.le

theorem two_pow_le_keep (hk : k ≠ 0) : 2 ^ k.log2 ≤ keep k := by
  rcases Nat.le_total k.log2 52 with hshort | hlong
  · rw [keep_of_log2_le hshort]
    exact Nat.log2_self_le hk
  · obtain ⟨hlow, -, heq, -⟩ := two_pow_log2 hlong
    rw [← heq]
    exact Nat.mul_le_mul_right _ (le_nearest (gap_pos k) hlow)

theorem keep_le_two_pow (k : Nat) : keep k ≤ 2 ^ (k.log2 + 1) := by
  rcases Nat.le_total k.log2 52 with hshort | hlong
  · rw [keep_of_log2_le hshort]
    exact Nat.lt_log2_self.le
  · obtain ⟨-, hhigh, -, heq⟩ := two_pow_log2 hlong
    rw [← heq]
    exact Nat.mul_le_mul_right _ (nearest_le (gap_pos k) hhigh)

theorem keep_mono : Monotone keep := by
  intro a b h
  rcases Nat.eq_zero_or_pos a with rfl | ha
  · rw [keep_of_le (Nat.zero_le _)]
    exact Nat.zero_le _
  · have hb : b ≠ 0 := by omega
    have hlog : a.log2 ≤ b.log2 := (Nat.le_log2 hb).2 ((Nat.log2_self_le ha.ne').trans h)
    rcases hlog.lt_or_eq with hlt | heq
    · calc keep a ≤ 2 ^ (a.log2 + 1) := keep_le_two_pow a
        _ ≤ 2 ^ b.log2 := Nat.pow_le_pow_right (by decide) hlt
        _ ≤ keep b := two_pow_le_keep hb
    · have hgap : gap a = gap b := by rw [gap_eq, gap_eq, heq]
      rw [keep, keep, hgap]
      exact Nat.mul_le_mul_right _ (nearest_mono h)

theorem hasDigits_of_le (hd : 0 < d) (h : k ≤ 2 ^ d) (e : Nat) : HasDigits d (k * 2 ^ e) := by
  rcases h.lt_or_eq with hlt | rfl
  · exact ⟨k, e, hlt, rfl⟩
  · exact ⟨1, d + e, Nat.one_lt_two_pow hd.ne', by rw [Nat.one_mul, Nat.pow_add]⟩

theorem hasDigits_keep (k : Nat) : HasDigits 53 (keep k) := by
  rcases Nat.le_total k.log2 52 with hshort | hlong
  · have hlt : k < 2 ^ 53 := Nat.lt_log2_self.trans_le (Nat.pow_le_pow_right (by decide) (by omega))
    exact ⟨k, 0, hlt, by rw [keep_of_log2_le hshort, Nat.pow_zero, Nat.mul_one]⟩
  · obtain ⟨-, hhigh, -, -⟩ := two_pow_log2 hlong
    rw [keep]
    nth_rewrite 2 [gap_eq]
    exact hasDigits_of_le (by decide) (nearest_le (gap_pos k) hhigh) _

/-- Another number with 53 digits is farther off, or as far off and then the one that is kept has
one digit less. -/
theorem dist_keep {x : Nat} (hx : HasDigits 53 x) (hne : x ≠ keep k) :
    k.dist (keep k) < k.dist x ∨ (k.dist (keep k) = k.dist x ∧ HasDigits 52 (keep k)) := by
  rcases Nat.le_total k.log2 52 with hshort | hlong
  · rw [keep_of_log2_le hshort] at hne ⊢
    left
    rw [Nat.dist_self]
    exact Nat.dist_pos_of_ne hne.symm
  · obtain ⟨hlow, hhigh, -, -⟩ := two_pow_log2 hlong
    obtain ⟨c, e, hc, rfl⟩ := hx
    rcases Nat.lt_or_ge e (k.log2 - 52) with hbelow | habove
    · -- A number with a finer end stands below the power of two that `k` has reached.
      have hfar : c * 2 ^ e < 2 ^ 52 * gap k := by
        calc c * 2 ^ e < 2 ^ 53 * 2 ^ e := Nat.mul_lt_mul_of_pos_right hc (Nat.two_pow_pos e)
          _ = 2 ^ 52 * 2 ^ (e + 1) := by ring
          _ ≤ 2 ^ 52 * gap k := by
            rw [gap_eq]
            exact Nat.mul_le_mul_left _ (Nat.pow_le_pow_right (by decide) hbelow)
      left
      by_cases hkept : 2 ^ 52 = nearest k (gap k)
      · rw [keep, ← hkept]
        unfold Nat.dist
        omega
      · have hnear := dist_nearest (gap_pos k) hkept
        rw [← keep] at hnear
        unfold Nat.dist at hnear ⊢
        omega
    · have hgrid : c * 2 ^ e = c * 2 ^ (e - (k.log2 - 52)) * gap k := by
        rw [gap_eq, Nat.mul_assoc, ← Nat.pow_add, Nat.sub_add_cancel habove]
      rw [hgrid] at hne ⊢
      have hother : c * 2 ^ (e - (k.log2 - 52)) ≠ nearest k (gap k) :=
        fun heq => hne (by rw [heq, keep])
      rcases dist_nearest (gap_pos k) hother with hlt | ⟨heq, heven⟩
      · exact .inl hlt
      · refine .inr ⟨heq, ?_⟩
        have hhalf : keep k = nearest k (gap k) / 2 * 2 ^ (k.log2 - 52 + 1) := by
          rw [Nat.pow_succ', ← Nat.mul_assoc, Nat.div_mul_cancel (Nat.dvd_of_mod_eq_zero heven),
            ← gap_eq, keep]
        have hle := nearest_le (gap_pos k) hhigh
        rw [hhalf]
        exact hasDigits_of_le (by decide) (by omega) _

/-! ## Integers -/

/-- Where infinity starts: no finite double is as large. -/
def limit : Nat := Nat.pow 2 1024

/-- Where doubles stand among the integers; an infinite one stands at the limit. -/
def IsPlace (x : Int) : Prop := HasDigits 53 x.natAbs ∧ x.natAbs ≤ limit

/-- Whether `x` is the place nearest to `n`, and the even one of two that are equally near. -/
structure IsRounding (n x : Int) : Prop where
  isPlace : IsPlace x
  nearest : ∀ y, IsPlace y → y ≠ x → (n - x).natAbs < (n - y).natAbs ∨
    ((n - x).natAbs = (n - y).natAbs ∧ HasDigits 52 x.natAbs)

def rounded (n : Int) : Int := signed (decide (n < 0)) (min (keep n.natAbs) limit)

theorem natAbs_signed (negative : Bool) (k : Nat) : (signed negative k).natAbs = k := by
  cases negative <;> simp [signed]

theorem limit_eq : limit = 2 ^ 1024 := by decide +kernel

theorem limit_pos : 0 < limit := by decide +kernel

theorem keep_limit : keep limit = limit := by
  rw [limit_eq]
  exact keep_two_pow 1024

theorem rounded_of_le {n : Int} (h : n.natAbs ≤ 2 ^ 53) : rounded n = n := by
  have hlimit : n.natAbs ≤ limit := h.trans (by decide +kernel)
  rw [rounded, keep_of_le h, Nat.min_eq_left hlimit]
  rcases lt_or_ge n 0 with hneg | hpos
  · rw [decide_eq_true hneg, signed, if_pos rfl]
    omega
  · rw [decide_eq_false (not_lt.2 hpos), signed, if_neg Bool.false_ne_true]
    omega

theorem natAbs_rounded (n : Int) : (rounded n).natAbs = min (keep n.natAbs) limit :=
  natAbs_signed _ _

theorem natAbs_rounded_le (n : Int) : (rounded n).natAbs ≤ limit := by
  rw [natAbs_rounded]
  exact Nat.min_le_right _ _

theorem rounded_le_rounded {m n : Int} (h : m ≤ n) : rounded m ≤ rounded n := by
  have hup := @keep_mono m.natAbs n.natAbs
  have hdown := @keep_mono n.natAbs m.natAbs
  unfold rounded signed
  simp only [decide_eq_true_eq]
  split_ifs <;> omega

theorem dist_min_keep {x : Nat} (hx : HasDigits 53 x) (hle : x ≤ limit)
    (hne : x ≠ min (keep k) limit) :
    k.dist (min (keep k) limit) < k.dist x ∨
      (k.dist (min (keep k) limit) = k.dist x ∧ HasDigits 52 (min (keep k) limit)) := by
  rcases Nat.le_total (keep k) limit with hfinite | hinfinite
  · rw [Nat.min_eq_left hfinite] at hne ⊢
    exact dist_keep hx hne
  · rw [Nat.min_eq_right hinfinite] at hne ⊢
    rcases Nat.lt_or_ge k limit with hbelow | habove
    · have hkeep : keep k = limit := by
        have hmono := keep_mono hbelow.le
        rw [keep_limit] at hmono
        omega
      rw [← hkeep] at hne ⊢
      exact dist_keep hx hne
    · left
      unfold Nat.dist
      omega

theorem natAbs_sub_rounded_lt {n : Int} (h : rounded n ≠ 0) :
    (n - rounded n).natAbs < (n - -rounded n).natAbs := by
  have hzero : rounded 0 = 0 := rounded_of_le (by decide)
  rcases Int.lt_trichotomy n 0 with hneg | rfl | hpos
  · have hsign := rounded_le_rounded hneg.le
    omega
  · exact absurd hzero h
  · have hsign := rounded_le_rounded hpos.le
    omega

theorem isRounding_rounded (n : Int) : IsRounding n (rounded n) := by
  have hsize := natAbs_rounded n
  have hdist : (n - rounded n).natAbs = n.natAbs.dist (min (keep n.natAbs) limit) := by
    unfold rounded signed Nat.dist
    simp only [decide_eq_true_eq]
    split_ifs <;> omega
  refine ⟨⟨?_, natAbs_rounded_le n⟩, fun y hy hne => ?_⟩
  · rw [hsize]
    rcases Nat.le_total (keep n.natAbs) limit with hfinite | hinfinite
    · rw [Nat.min_eq_left hfinite]
      exact hasDigits_keep _
    · rw [Nat.min_eq_right hinfinite, ← keep_limit]
      exact hasDigits_keep _
  · rw [hdist, hsize]
    -- A place on the other side of zero is farther off than its mirror image.
    have hmirror : n.natAbs.dist y.natAbs ≤ (n - y).natAbs := by
      unfold Nat.dist
      omega
    by_cases hsame : y.natAbs = min (keep n.natAbs) limit
    · left
      rw [← hdist]
      rw [← hsize] at hsame
      rcases Int.natAbs_eq_natAbs_iff.1 hsame with heq | rfl
      · exact absurd heq hne
      · exact natAbs_sub_rounded_lt (by omega)
    · rcases dist_min_keep hy.1 hy.2 hsame with hlt | ⟨heq, hdigits⟩
      · exact .inl (hlt.trans_le hmirror)
      · rw [heq]
        rcases hmirror.lt_or_eq with hlt | heq
        · exact .inl hlt
        · exact .inr ⟨heq, hdigits⟩

/-! ## Reading integers -/

def ofInt (n : Int) : Binary64 :=
  if keep n.natAbs < limit then .finite (decide (n < 0)) (keep n.natAbs * one)
  else .infinite (decide (n < 0))

theorem one_eq : one = 2 ^ 1074 := by decide +kernel

theorem one_pos : 0 < one := by decide +kernel

theorem log2_mul_two_pow (hk : k ≠ 0) (e : Nat) : (k * 2 ^ e).log2 = k.log2 + e := by
  have hpos := Nat.two_pow_pos e
  have hlow := Nat.mul_le_mul_right (2 ^ e) (Nat.log2_self_le hk)
  have hhigh := Nat.mul_lt_mul_of_pos_right (@Nat.lt_log2_self k) hpos
  rw [← Nat.pow_add] at hlow hhigh
  rw [Nat.log2_eq_iff (Nat.mul_ne_zero hk hpos.ne')]
  exact ⟨hlow, by rwa [Nat.add_right_comm] at hhigh⟩

/-- In steps so small that no digit of an integer is among them the same digits are lost. -/
theorem keep_mul_two_pow {e : Nat} (he : 52 ≤ e) (k : Nat) :
    keep (k * 2 ^ e) = keep k * 2 ^ e := by
  rcases Nat.eq_zero_or_pos k with rfl | hk
  · rw [Nat.zero_mul, keep_of_le (Nat.zero_le _), Nat.zero_mul]
  · have hlog := log2_mul_two_pow hk.ne' e
    rcases Nat.le_total k.log2 52 with hshort | hlong
    · rw [keep_of_log2_le hshort]
      refine keep_of_dvd (Dvd.dvd.mul_left ?_ k)
      rw [gap_eq, hlog]
      exact Nat.pow_dvd_pow 2 (by omega)
    · have hgap : gap (k * 2 ^ e) = gap k * 2 ^ e := by
        rw [gap_eq, gap_eq, hlog, ← Nat.pow_add]
        congr 1
        omega
      rw [keep, hgap, nearest_mul_mul_right (Nat.two_pow_pos e), ← Nat.mul_assoc, keep]

theorem ofRatio_one (negative : Bool) (k : Nat) :
    ofRatio negative k 1 =
      if keep k < limit then .finite negative (keep k * one) else .infinite negative := by
  unfold ofRatio
  dsimp only
  have hsteps : keep (k * one) = keep k * one := by
    rw [one_eq]
    exact keep_mul_two_pow (by decide) k
  rw [Nat.div_one, Nat.one_mul, ← keep, hsteps]
  unfold limit
  simp only [Nat.mul_lt_mul_right one_pos]

theorem limit_le_keep (h : 310 < (Text.ofNat k).length) : limit ≤ keep k := by
  have hlarge : limit ≤ Nat.pow 10 310 := by decide +kernel
  have hk : Nat.pow 10 310 ≤ k := by
    by_contra hlt
    exact absurd (Text.length_ofNat_le (by decide) hlt) (not_le.2 h)
  have hmono := keep_mono (hlarge.trans hk)
  rwa [keep_limit] at hmono

theorem toBinary64_integer (negative : Bool) (k : Nat) :
    Decimal.toBinary64 ⟨negative, k, 0⟩ =
      if keep k < limit then .finite negative (keep k * one) else .infinite negative := by
  unfold Decimal.toBinary64
  dsimp only
  rw [Int.add_zero]
  split
  · next hzero =>
    obtain rfl : k = 0 := by
      rw [Bool.or_eq_true, beq_iff_eq, decide_eq_true_eq] at hzero
      omega
    rw [keep_of_le (Nat.zero_le _), Nat.zero_mul, if_pos limit_pos]
  · split
    · next hlarge =>
      rw [if_neg (not_lt.2 (limit_le_keep (Int.ofNat_lt.1 hlarge)))]
    · have hunit : Nat.pow 10 (0 : Int).toNat = 1 := rfl
      rw [if_pos (Int.le_refl 0), hunit, Nat.mul_one, ofRatio_one]

end Stencil.Binary64
