import Stencil.Proofs.Text.CaseTable

/-!
# Letters that have their case

A text in lower case, or in upper case, stays as it is when its case is changed to the same again.
-/

namespace Stencil.Text

variable {c d : CodePoint} {s t before : Text}

/-! ## Characters -/

def isCapital (c : CodePoint) : Bool := lowerChar c != [c]

theorem isCapital_eq_false_iff : isCapital c = false ↔ lowerChar c = [c] := by simp [isCapital]

theorem lowerChar_ne_nil (c : CodePoint) : lowerChar c ≠ [] := Settled.caseOf_ne_nil settled_lower

theorem upperChar_ne_nil (c : CodePoint) : upperChar c ≠ [] := Settled.caseOf_ne_nil settled_upper

theorem isCapital_of_mem_lowerChar (h : d ∈ lowerChar c) : isCapital d = false :=
  isCapital_eq_false_iff.2 (Settled.caseOf_caseOf settled_lower h)

theorem upperChar_of_mem_upperChar (h : d ∈ upperChar c) : upperChar d = [d] :=
  Settled.caseOf_caseOf settled_upper h

theorem eq_or_of_mem_lowerChar (h : d ∈ lowerChar c) : d = c ∨ isWordSeparator d = false :=
  Settled.eq_or_of_mem_caseOf settled_lower h

theorem eq_or_of_mem_upperChar (h : d ∈ upperChar c) : d = c ∨ isWordSeparator d = false :=
  Settled.eq_or_of_mem_caseOf settled_upper h

/-! ## ASCII -/

theorem forall_isUpper {p : CodePoint → Prop} (h : ∀ n < 26, p (CodePoint.ofNat (65 + n)))
    (hc : c.isUpper = true) : p c := by
  obtain ⟨hlow, hhigh⟩ := CodePoint.isUpper_iff.1 hc
  have hp := h (c.toNat - 65) (by omega)
  rwa [Nat.add_sub_cancel' hlow, CodePoint.ofNat_toNat] at hp

theorem forall_isLower {p : CodePoint → Prop} (h : ∀ n < 26, p (CodePoint.ofNat (97 + n)))
    (hc : c.isLower = true) : p c := by
  obtain ⟨hlow, hhigh⟩ := CodePoint.isLower_iff.1 hc
  have hp := h (c.toNat - 97) (by omega)
  rwa [Nat.add_sub_cancel' hlow, CodePoint.ofNat_toNat] at hp

theorem ascii_of_isUpper (h : c.isUpper = true) : c.toNat < 0x80 := by
  have := CodePoint.isUpper_iff.1 h
  omega

theorem toLower_of_not_isUpper (h : c.isUpper = false) : c.toLower = c := by
  rw [CodePoint.toLower, h]
  rfl

theorem toUpper_of_not_isLower (h : c.isLower = false) : c.toUpper = c := by
  rw [CodePoint.toUpper, h]
  rfl

theorem lowerChar_of_ascii (h : c.toNat < 0x80) : lowerChar c = [c.toLower] := by
  cases hc : c.isUpper with
  | true =>
    refine forall_isUpper (p := fun c => lowerChar c = [c.toLower]) ?_ hc
    intro n hn
    have hsmall : ∀ n < 26, (CodePoint.ofNat (65 + n)).toLower = .ofNat (97 + n) := by decide
    rw [hsmall n hn]
    exact Settled.alphabet settled_lower n hn
  | false =>
    rw [toLower_of_not_isUpper hc]
    apply caseOf_eq_self
    rw [Bool.eq_false_iff]
    intro hsource
    have hupper : ¬(65 ≤ c.toNat ∧ c.toNat ≤ 90) := by simp [← CodePoint.isUpper_iff, hc]
    have hletter := Settled.letters_of_testBit settled_lower hsource h
    omega

theorem upperChar_of_ascii (h : c.toNat < 0x80) : upperChar c = [c.toUpper] := by
  cases hc : c.isLower with
  | true =>
    refine forall_isLower (p := fun c => upperChar c = [c.toUpper]) ?_ hc
    intro n hn
    have hlarge : ∀ n < 26, (CodePoint.ofNat (97 + n)).toUpper = .ofNat (65 + n) := by decide
    rw [hlarge n hn]
    exact Settled.alphabet settled_upper n hn
  | false =>
    rw [toUpper_of_not_isLower hc]
    apply caseOf_eq_self
    rw [Bool.eq_false_iff]
    intro hsource
    have hlower : ¬(97 ≤ c.toNat ∧ c.toNat ≤ 122) := by simp [← CodePoint.isLower_iff, hc]
    have hletter := Settled.letters_of_testBit settled_upper hsource h
    omega

theorem isCapital_eq_isUpper (h : c.toNat < 0x80) : isCapital c = c.isUpper := by
  rw [isCapital, lowerChar_of_ascii h]
  cases hc : c.isUpper with
  | false => simp [toLower_of_not_isUpper hc]
  | true => exact forall_isUpper (p := fun c => ([c.toLower] != [c]) = true) (by decide) hc

theorem isCapital_of_isUpper (h : c.isUpper = true) : isCapital c = true := by
  rw [isCapital_eq_isUpper (ascii_of_isUpper h), h]

theorem upperChar_of_isUpper (h : c.isUpper = true) : upperChar c = [c] := by
  rw [upperChar_of_ascii (ascii_of_isUpper h), toUpper_of_not_isLower (isLower_of_isUpper h)]

theorem eq_toLower {α : Type} {f : CodePoint → α}
    (h : ∀ n < 26, f (CodePoint.ofNat (65 + n)).toLower = f (.ofNat (65 + n))) (c : CodePoint) :
    f c.toLower = f c := by
  cases hc : c.isUpper with
  | false => rw [toLower_of_not_isUpper hc]
  | true => exact forall_isUpper (p := fun c => f c.toLower = f c) h hc

theorem lowerChar_toLower (c : CodePoint) : lowerChar c.toLower = lowerChar c := by
  cases hc : c.isUpper with
  | false => rw [toLower_of_not_isUpper hc]
  | true =>
    have hsmall : c.toLower.toNat < 0x80 ∧ c.toLower.toLower = c.toLower :=
      forall_isUpper (p := fun c => c.toLower.toNat < 0x80 ∧ c.toLower.toLower = c.toLower)
        (by decide) hc
    rw [lowerChar_of_ascii hsmall.1, lowerChar_of_ascii (ascii_of_isUpper hc), hsmall.2]

/-! ## Lower case -/

theorem lowerChar_sigma : lowerChar capitalSigma = [chr 'σ'] ∧ lowerChar 'ς' = [chr 'ς'] := by
  decide

/-- A capital sigma that ends a word is the only letter whose lower case is not that of its
table. -/
theorem exists_lowerFrom_cons (before : Text) (c : CodePoint) (s : Text) :
    ∃ w, lowerFrom before (c :: s) = w ++ lowerFrom (c :: before) s ∧
      (w = lowerChar c ∨ c = capitalSigma ∧ w = [chr 'ς']) := by
  refine ⟨_, rfl, ?_⟩
  split
  · next hc =>
    obtain rfl := eq_of_beq hc
    split
    · exact .inr ⟨rfl, rfl⟩
    · exact .inl lowerChar_sigma.1.symm
  · exact .inl rfl

theorem exists_of_mem_lowerFrom (h : d ∈ lowerFrom before s) :
    ∃ c ∈ s, d ∈ lowerChar c ∨ c = capitalSigma ∧ d = 'ς' := by
  induction s generalizing before with
  | nil => cases h
  | cons c s ih =>
    obtain ⟨w, hw, hcases⟩ := exists_lowerFrom_cons before c s
    rw [hw, List.mem_append] at h
    rcases h with hd | hd
    · refine ⟨c, List.mem_cons_self, ?_⟩
      rcases hcases with rfl | ⟨hc, rfl⟩
      · exact .inl hd
      · exact .inr ⟨hc, List.mem_singleton.1 hd⟩
    · obtain ⟨e, he, hcases⟩ := ih hd
      exact ⟨e, List.mem_cons_of_mem c he, hcases⟩

theorem mem_lowerFrom (h : d ∈ lowerFrom before s) :
    isCapital d = false ∧ (d ∈ s ∨ isWordSeparator d = false) := by
  obtain ⟨c, hc, hmem | ⟨-, rfl⟩⟩ := exists_of_mem_lowerFrom h
  · refine ⟨isCapital_of_mem_lowerChar hmem, ?_⟩
    rcases eq_or_of_mem_lowerChar hmem with rfl | hsep
    · exact .inl hc
    · exact .inr hsep
  · exact ⟨isCapital_eq_false_iff.2 lowerChar_sigma.2, .inr (by decide)⟩

theorem lowerFrom_eq_self (h : ∀ c ∈ s, isCapital c = false) : lowerFrom before s = s := by
  induction s generalizing before with
  | nil => rfl
  | cons c s ih =>
    rw [List.forall_mem_cons] at h
    obtain ⟨w, hw, hcases⟩ := exists_lowerFrom_cons before c s
    rw [hw, ih h.2]
    rcases hcases with rfl | ⟨rfl, -⟩
    · rw [isCapital_eq_false_iff.1 h.1]
      rfl
    · rw [isCapital_eq_false_iff, lowerChar_sigma.1] at h
      exact absurd h.1 (by decide)

theorem length_le_lowerFrom (before s : Text) : s.length ≤ (lowerFrom before s).length := by
  induction s generalizing before with
  | nil => simp
  | cons c s ih =>
    obtain ⟨w, hw, hcases⟩ := exists_lowerFrom_cons before c s
    have hlength := ih (c :: before)
    have hpos : 0 < w.length := by
      rcases hcases with rfl | ⟨-, rfl⟩
      · exact List.length_pos_of_ne_nil (lowerChar_ne_nil c)
      · simp
    simp only [hw, List.length_append, List.length_cons]
    omega

theorem isCapital_of_mem_lower (h : d ∈ lower s) : isCapital d = false := (mem_lowerFrom h).1

theorem lower_eq_self_iff : lower s = s ↔ ∀ c ∈ s, isCapital c = false := by
  constructor
  · intro h c hc
    rw [← h] at hc
    exact isCapital_of_mem_lower hc
  · exact lowerFrom_eq_self

theorem lower_lower (s : Text) : lower (lower s) = lower s :=
  lower_eq_self_iff.2 fun _ => isCapital_of_mem_lower

theorem lower_ne_nil (h : s ≠ []) : lower s ≠ [] := by
  have hlength := length_le_lowerFrom [] s
  have hpos := List.length_pos_of_ne_nil h
  intro hnil
  rw [lower] at hnil
  simp only [hnil, List.length_nil] at hlength
  omega

theorem isWordSeparator_of_mem_lower (hs : ∀ c ∈ s, isWordSeparator c = false)
    (h : d ∈ lower s) : isWordSeparator d = false := by
  rcases (mem_lowerFrom h).2 with hd | hd
  · exact hs d hd
  · exact hd

/-! ## Letter case in front -/

theorem inRanges_toLower {ranges : List (Nat × Nat)}
    (h : ∀ r ∈ ranges, r.2 < 65 ∨ 90 < r.1 ∧ r.2 < 97 ∨ 122 < r.1) (c : CodePoint) :
    inRanges ranges c.toLower.toNat = inRanges ranges c.toNat := by
  have hfree : ∀ n, 65 ≤ n ∧ n ≤ 90 ∨ 97 ≤ n ∧ n ≤ 122 → inRanges ranges n = false := by
    intro n hn
    rw [inRanges, List.any_eq_false]
    intro r hr
    have := h r hr
    simp only [Bool.and_eq_true, decide_eq_true_eq]
    omega
  cases hc : c.isUpper with
  | false => rw [toLower_of_not_isUpper hc]
  | true =>
    have hsmall : 97 ≤ c.toLower.toNat ∧ c.toLower.toNat ≤ 122 :=
      forall_isUpper (p := fun c => 97 ≤ c.toLower.toNat ∧ c.toLower.toNat ≤ 122) (by decide) hc
    rw [hfree _ (.inr hsmall), hfree _ (.inl (CodePoint.isUpper_iff.1 hc))]

theorem meetsCased_map_toLower (s : Text) :
    meetsCased (s.map CodePoint.toLower) = meetsCased s := by
  have hskip : ∀ c : CodePoint, inRanges caseIgnorableRanges c.toLower.toNat =
      inRanges caseIgnorableRanges c.toNat :=
    inRanges_toLower (by decide +kernel)
  have hcased : ∀ c : CodePoint, inRanges casedRanges c.toLower.toNat =
      inRanges casedRanges c.toNat :=
    eq_toLower (f := fun c => inRanges casedRanges c.toNat) (by decide)
  induction s with
  | nil => rfl
  | cons c s ih =>
    unfold meetsCased at ih ⊢
    simp only [List.map_cons, List.dropWhile_cons, hskip]
    by_cases hc : inRanges caseIgnorableRanges c.toNat = true
    · rw [if_pos hc, if_pos hc]
      exact ih
    · rw [if_neg hc, if_neg hc]
      exact hcased c

theorem lowerFrom_map_toLower (before s : Text) :
    lowerFrom (before.map CodePoint.toLower) (s.map CodePoint.toLower) = lowerFrom before s := by
  induction s generalizing before with
  | nil => rfl
  | cons c s ih =>
    have hsigma : (c.toLower == capitalSigma) = (c == capitalSigma) :=
      eq_toLower (f := fun c => c == capitalSigma) (by decide) c
    rw [List.map_cons, lowerFrom, lowerFrom, hsigma, lowerChar_toLower, meetsCased_map_toLower,
      meetsCased_map_toLower, ← ih (c :: before), List.map_cons]

theorem lower_congr (h : s.map CodePoint.toLower = t.map CodePoint.toLower) :
    lower s = lower t := by
  rw [lower, ← lowerFrom_map_toLower, h]
  exact lowerFrom_map_toLower [] t

theorem meetsCased_append_dot (s : Text) : meetsCased (s ++ [chr '.']) = meetsCased s := by
  unfold meetsCased
  rw [List.dropWhile_append]
  cases s.dropWhile (inRanges caseIgnorableRanges ·.toNat) with
  | nil => decide
  | cons c rest => rfl

theorem lowerFrom_append_dot (before s : Text) :
    lowerFrom (before ++ [chr '.']) s = lowerFrom before s := by
  induction s generalizing before with
  | nil => rfl
  | cons c s ih =>
    rw [lowerFrom, lowerFrom, meetsCased_append_dot, ← List.cons_append, ih]

theorem lower_dot (s : Text) : lower ('.' :: s) = chr '.' :: lower s := by
  have hdot : lowerChar '.' = [chr '.'] := lowerChar_of_ascii (by decide)
  rw [lower, lowerFrom, if_neg (by decide), hdot, List.singleton_append]
  exact congrArg (chr '.' :: ·) (lowerFrom_append_dot [] s)

end Stencil.Text
