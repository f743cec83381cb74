import Mathlib.Data.List.Lex
import Mathlib.Data.List.Sort
import Mathlib.Data.List.TakeWhile
import Mathlib.Order.Lattice
import Stencil.Disk

/-!
# The order of paths

Names are compared character by character and paths name by name, which is the lexicographic order
of lists. The ending of a name is what follows its last dot.
-/

namespace Stencil.Path

variable {s t name stem ending : Text} {p q : Path}

/-! ## Order -/

instance : LinearOrder CodePoint where
  le a b := a.toNat ≤ b.toNat
  lt a b := a.toNat < b.toNat
  le_refl _ := Nat.le_refl _
  le_trans _ _ _ := Nat.le_trans
  lt_iff_le_not_ge _ _ := Nat.lt_iff_le_and_not_ge
  le_antisymm _ _ h h' := CodePoint.toNat_inj.1 (Nat.le_antisymm h h')
  le_total _ _ := Nat.le_total _ _
  toDecidableLE _ _ := Nat.decLe _ _
  toDecidableEq := inferInstance

theorem nameLess_iff : nameLess s t = true ↔ s < t := by
  induction s generalizing t with
  | nil =>
    cases t with
    | nil => simp [nameLess]
    | cons b t => simp [nameLess, List.nil_lt_cons]
  | cons a s ih =>
    cases t with
    | nil => simp [nameLess]
    | cons b t =>
      rw [nameLess, Bool.or_eq_true, Bool.and_eq_true, decide_eq_true_eq, beq_iff_eq, ih,
        List.cons_lt_cons_iff]
      rfl

theorem le_iff : le p q = true ↔ p ≤ q := by
  rw [← not_lt]
  induction p generalizing q with
  | nil => simp [le]
  | cons a p ih =>
    cases q with
    | nil => simp [le, List.nil_lt_cons]
    | cons b q =>
      rw [le, Bool.or_eq_true, Bool.and_eq_true, nameLess_iff, beq_iff_eq, ih,
        List.cons_lt_cons_iff]
      rcases lt_trichotomy a b with hlt | rfl | hlt
      · simp [hlt, hlt.not_gt, hlt.ne']
      · simp
      · simp [hlt, hlt.not_gt, hlt.ne']

theorem sortedLT_mergeSort {α : Type} [LinearOrder α] {le : α → α → Bool} {l : List α}
    (hle : ∀ a b, le a b = true ↔ a ≤ b) (h : l.Nodup) : (l.mergeSort le).SortedLT := by
  obtain rfl : le = fun a b => decide (a ≤ b) := by
    funext a b
    rw [Bool.eq_iff_iff, hle, decide_eq_true_eq]
  exact List.sortedLE_mergeSort.sortedLT_of_nodup ((List.mergeSort_perm _ _).nodup_iff.2 h)

/-! ## Endings -/

theorem suffix_append (hstem : stem ≠ []) (hne : ending ≠ []) (hdot : chr '.' ∉ ending) :
    suffix (stem ++ chr '.' :: ending) = chr '.' :: ending := by
  have hlast : ((stem ++ chr '.' :: ending).reverse.takeWhile (· != chr '.')).reverse = ending := by
    rw [List.reverse_append, List.reverse_cons, List.append_assoc, List.takeWhile_append_of_pos]
    · simp
    · intro c hc
      rw [bne_iff_ne]
      rintro rfl
      exact hdot (List.mem_reverse.1 hc)
  have hpos := List.length_pos_of_ne_nil hstem
  unfold suffix
  simp only [hlast]
  rw [if_pos]
  simp only [List.length_append, List.length_cons, Bool.and_eq_true, decide_eq_true_eq,
    Bool.not_eq_true', List.isEmpty_eq_false_iff]
  exact ⟨by omega, hne⟩

theorem suffix_cases (name : Text) :
    suffix name = [] ∨ ∃ stem ending, name = stem ++ chr '.' :: ending ∧ stem ≠ [] ∧ ending ≠ [] ∧
      chr '.' ∉ ending := by
  -- The last dot is the first one in reverse.
  have hparts := List.takeWhile_append_dropWhile (p := (· != chr '.')) (l := name.reverse)
  have hfree : chr '.' ∉ name.reverse.takeWhile (· != chr '.') := by
    intro hmem
    simpa using List.mem_takeWhile_imp hmem
  unfold suffix
  generalize name.reverse.takeWhile (· != chr '.') = last at hparts hfree
  cases hback : name.reverse.dropWhile (· != chr '.') with
  | nil =>
    left
    rw [hback, List.append_nil] at hparts
    simp [hparts]
  | cons c stem =>
    obtain rfl : c = '.' := by
      have := List.head?_dropWhile_not (· != chr '.') name.reverse
      simpa [hback] using this
    rw [hback] at hparts
    have hname : name = stem.reverse ++ chr '.' :: last.reverse := by
      rw [← List.reverse_reverse name, ← hparts]
      simp
    by_cases hempty : stem = [] ∨ last = []
    · left
      subst hname
      rcases hempty with rfl | rfl <;> simp
    · rw [not_or] at hempty
      exact .inr ⟨_, _, hname, by simpa using hempty.1, by simpa using hempty.2,
        by simpa using hfree⟩

end Stencil.Path
