import Stencil.Proofs.Binary64.Rounding
import Stencil.Proofs.Condition.Comparing
import Stencil.Proofs.Text.Trimming

/-!
# Comparing integers

Integers are compared as the doubles nearest to them. Two that become the same double count as
equal, any other two are compared as they are, and up to 2⁵³ no two become the same.
-/

namespace Stencil

open Binary64

/-! ## The order of rounded integers -/

namespace Binary64

variable {n : Int}

/-- The rank of a place. The infinite doubles stand at the limit, and what is beyond it, where no
double is, follows in order. -/
def rankAt (x : Int) : Int × Int :=
  if x.natAbs < limit then (0, x * one) else (x.sign, x - x.sign * limit)

theorem signed_mul (negative : Bool) (k m : Nat) :
    signed negative (k * m) = signed negative k * m := by
  cases negative <;> simp [signed]

theorem sign_signed (negative : Bool) {k : Nat} (hk : 0 < k) :
    (signed negative k).sign = signed negative 1 := by
  cases negative <;> simp [signed, Int.sign_natCast_of_ne_zero hk.ne']

theorem rank?_ofInt (n : Int) : (ofInt n).rank? = some (rankAt (rounded n)) := by
  unfold ofInt rankAt
  rw [natAbs_rounded]
  unfold rounded
  split
  · next hfinite =>
    rw [Nat.min_eq_left hfinite.le, if_pos hfinite, rank?, signed_mul]
  · next hinfinite =>
    rw [Nat.min_eq_right (not_lt.1 hinfinite), if_neg (lt_irrefl _), rank?,
      sign_signed _ limit_pos, ← signed_mul, Nat.one_mul, Int.sub_self]

theorem rankAt_lt_rankAt {x y : Int} (h : x < y) : toLex (rankAt x) < toLex (rankAt y) := by
  have hlimit := limit_pos
  rw [Prod.Lex.toLex_lt_toLex]
  unfold rankAt
  split_ifs with hx hy hy
  · exact .inr ⟨rfl, Int.mul_lt_mul_of_pos_right h (Int.natCast_pos.2 one_pos)⟩
  · rw [Int.sign_eq_one_of_pos (by omega : 0 < y)]
    exact .inl Int.one_pos
  · rw [Int.sign_eq_neg_one_of_neg (by omega : x < 0)]
    exact .inl (show (-1 : Int) < 0 by decide)
  · rcases lt_or_ge y 0 with hy0 | hy0
    · rw [Int.sign_eq_neg_one_of_neg hy0, Int.sign_eq_neg_one_of_neg (h.trans hy0)]
      exact .inr ⟨rfl, by omega⟩
    · rw [Int.sign_eq_one_of_pos (by omega : 0 < y)]
      rcases lt_or_ge x 0 with hx0 | hx0
      · rw [Int.sign_eq_neg_one_of_neg hx0]
        exact .inl (show (-1 : Int) < 1 by decide)
      · rw [Int.sign_eq_one_of_pos (by omega : 0 < x)]
        exact .inr ⟨rfl, by omega⟩

end Binary64

/-! ## Reading integers -/

theorem Text.tight_ofInt (n : Int) : Tight (ofInt n) := by
  have hdigits : ∀ n c, c ∈ ofNat n → isBlank c = false :=
    fun n c hc => isBlank_of_isDigit (isDigit_ofNat n c hc)
  cases n with
  | ofNat n => exact .of_forall (ofNat_ne_nil n) (hdigits n)
  | negSucc n =>
    exact .of_forall (List.cons_ne_nil _ _) (List.forall_mem_cons.2 ⟨by decide, hdigits (n + 1)⟩)

namespace Decimal

theorem takeSign_of_isDigit {c : CodePoint} (h : c.isDigit = true) (s : Text) :
    takeSign (c :: s) = (false, c :: s) := by
  unfold takeSign
  split
  · next heq =>
    cases heq
    cases h
  · next heq =>
    cases heq
    cases h
  · rfl

theorem takeSign_ofNat (n : Nat) : takeSign (Text.ofNat n) = (false, Text.ofNat n) := by
  obtain ⟨c, s, hs⟩ := List.exists_cons_of_ne_nil (Text.ofNat_ne_nil n)
  have hc : c.isDigit = true := by
    refine Text.isDigit_ofNat n c ?_
    rw [hs]
    exact List.mem_cons_self
  rw [hs, takeSign_of_isDigit hc]

theorem read?_of_takeSign {s : Text} {negative : Bool} {n : Nat}
    (h : takeSign s = (negative, Text.ofNat n)) : read? s = some ⟨negative, n, 0⟩ := by
  have hdigits : ∀ c ∈ Text.ofNat n, Text.isDecimal c = true := fun _ => Text.isDecimal_of_mem_ofNat
  have hne : (Text.ofNat n).isEmpty = false := by
    rw [List.isEmpty_eq_false_iff]
    exact Text.ofNat_ne_nil n
  unfold read?
  rw [h]
  dsimp only
  rw [List.takeWhile_eq_self_iff.2 hdigits, List.dropWhile_eq_nil_iff.2 hdigits]
  dsimp only
  rw [hne, List.append_nil, Text.decimalNumber?_ofNat]
  rfl

theorem read?_ofInt (n : Int) : read? (Text.ofInt n) = some ⟨decide (n < 0), n.natAbs, 0⟩ := by
  cases n with
  | ofNat n =>
    have hsign : ¬Int.ofNat n < 0 := not_lt.2 (Int.natCast_nonneg n)
    rw [decide_eq_false hsign]
    exact read?_of_takeSign (takeSign_ofNat n)
  | negSucc n =>
    rw [decide_eq_true (Int.negSucc_lt_zero n)]
    exact read?_of_takeSign rfl

end Decimal

theorem Numeral.number_ofInt (n : Int) : number (Text.ofInt n) = .ok (some (Binary64.ofInt n)) := by
  have hclean := (Text.unseparated_ofInt n).isClean
  obtain ⟨hfront, hback⟩ := isClean_iff.1 hclean
  unfold number
  rw [(Text.tight_ofInt n).trim_eq, Decimal.read?_ofInt, hfront, hback]
  dsimp only
  rw [toBinary64_integer]
  rfl

/-! ## Comparing integers -/

theorem Comparison.holds_ofInt (op : Comparison) (n m : Int) :
    op.holds (Binary64.ofInt n) (Binary64.ofInt m) = true ↔ op.Orders (rounded n) (rounded m) := by
  rw [holds_iff (rank?_ofInt n) (rank?_ofInt m)]
  exact orders_of_strictMono (f := fun x => toLex (rankAt x)) fun _ _ => rankAt_lt_rankAt

theorem Value.written_int {n : Int} (h : isTooLong n = false) :
    written (some (.int n)) = .ok (Text.ofInt n) := by
  rw [written, Option.bind_some, textFault?, h]
  rfl

/-- An integer, or its decimal text, compares with an integer in decimal as the two integers do,
except that integers with the same nearest double count as equal. -/
theorem integers_compare (n m : Int) :
    IsRounding n (rounded n) ∧
      ∀ v, v = .int n ∧ isTooLong n = false ∨ v = .str (Text.ofInt n) →
        ∀ op, ∃ b, Literal.compares ⟨Text.ofInt m, false⟩ op (some v) = .ok b ∧
          (b = true ↔ if rounded n = rounded m then op.Orders n n else op.Orders n m) ∧
          (n.natAbs ≤ 2 ^ 53 → m.natAbs ≤ 2 ^ 53 → (b = true ↔ op.Orders n m)) := by
  refine ⟨isRounding_rounded n, fun v hv op => ?_⟩
  have hwritten : Value.written (some v) = .ok (Text.ofInt n) := by
    rcases hv with ⟨rfl, hshort⟩ | rfl
    · exact Value.written_int hshort
    · rfl
  have hholds := op.holds_ofInt n m
  refine ⟨_, Literal.compares_eq hwritten (Numeral.number_ofInt n) (Numeral.number_ofInt m) op,
    ?_, fun hn hm => ?_⟩
  · exact hholds.trans (Comparison.orders_of_monotone fun _ _ => rounded_le_rounded)
  · rw [rounded_of_le hn, rounded_of_le hm] at hholds
    exact hholds

theorem integers_compare_last :
    let n : Int := -9007199254740992
    let m : Int := -9007199254740991
    isTooLong n = false ∧ n.natAbs ≤ 2 ^ 53 ∧ m.natAbs ≤ 2 ^ 53 ∧
      Literal.compares ⟨Text.ofInt m, false⟩ .less (some (.int n)) = .ok true ∧
      Literal.compares ⟨Text.ofInt m, false⟩ .equal (some (.str (Text.ofInt n))) = .ok false := by
  intro n m
  obtain ⟨-, hcompare⟩ := integers_compare n m
  have hshort : isTooLong n = false := by decide +kernel
  have hn : n.natAbs ≤ 2 ^ 53 := by decide
  have hm : m.natAbs ≤ 2 ^ 53 := by decide
  obtain ⟨less, hless, -, hexact⟩ := hcompare _ (.inl ⟨rfl, hshort⟩) .less
  obtain ⟨equal, hequal, -, hexact'⟩ := hcompare _ (.inr rfl) .equal
  obtain rfl : less = true := (hexact hn hm).2 (by decide)
  obtain rfl : equal = false := Bool.eq_false_iff.2 ((hexact' hn hm).not.2 (by decide))
  exact ⟨hshort, hn, hm, hless, hequal⟩

/-- The next integer is not told apart from that size: its last binary digit is lost. -/
theorem equals_neighbour :
    (9007199254740993 : Int) ≠ 9007199254740992 ∧
      Literal.equals ⟨Text.ofInt 9007199254740992, false⟩ (some (.int 9007199254740993)) =
        .ok true ∧
      (9007199254740993 : Int) > 9007199254740992 ∧
      Literal.ordered ⟨Text.ofInt 9007199254740992, false⟩ .greater
        (some (.int 9007199254740993)) = .ok false := by
  decide +kernel

end Stencil
