import Mathlib.Algebra.Ring.Nat
import Stencil.Proofs.Text.Words

/-!
# Case tables

What a case mapping gives is left alone by a second one, and no separator comes from another
character. Both are read off the tables by sets of code points, which are numbers with these bits.
-/

namespace Stencil

/-! ## Sets of code points -/

/-- The number with the bits `0`, `stride`, `2 * stride`, …, `count` in all. -/
def stripe (stride : Nat) : Nat → Nat
  | 0 => 0
  | count + 1 => 1 ||| stripe stride count <<< stride

/-- The number with `count` bits from `first` on. -/
def block (first count : Nat) : Nat := (2 ^ count - 1) <<< first

/-- The number with all bits that one of several numbers has. -/
def union (sets : List Nat) : Nat := sets.foldr (· ||| ·) 0

theorem testBit_stripe {stride count i : Nat} (h : i < count) :
    (stripe stride count).testBit (stride * i) = true := by
  induction count generalizing i with
  | zero => omega
  | succ count ih =>
    rw [stripe, Nat.testBit_or, Bool.or_eq_true]
    cases i with
    | zero => exact .inl (by simp)
    | succ i =>
      refine .inr ?_
      rw [Nat.testBit_shiftLeft, Bool.and_eq_true, decide_eq_true_eq, Nat.mul_succ,
        Nat.add_sub_cancel]
      exact ⟨Nat.le_add_left _ _, ih (by omega)⟩

theorem testBit_block {first count n : Nat} :
    (block first count).testBit n = true ↔ first ≤ n ∧ n < first + count := by
  rw [block, Nat.testBit_shiftLeft, Nat.testBit_two_pow_sub_one, Bool.and_eq_true,
    decide_eq_true_eq, decide_eq_true_eq]
  omega

theorem lt_of_shiftRight {set bound n : Nat} (h : set >>> bound = 0)
    (hn : set.testBit n = true) : n < bound := by
  rw [← Nat.not_le]
  intro hle
  have hbit := congrArg (Nat.testBit · (n - bound)) h
  simp [Nat.add_sub_cancel' hle, hn] at hbit

theorem testBit_union {sets : List Nat} {n : Nat} :
    (union sets).testBit n = true ↔ ∃ set ∈ sets, set.testBit n = true := by
  induction sets with
  | nil => simp [union]
  | cons set sets ih =>
    rw [union, List.foldr_cons, Nat.testBit_or, Bool.or_eq_true, List.exists_mem_cons_iff, ← ih]
    rfl

theorem testBit_one_shiftLeft (n : Nat) : (1 <<< n).testBit n = true := by
  simp [Nat.one_shiftLeft]

namespace CaseRun

variable {r : CaseRun} {n : Nat}

def sources (r : CaseRun) : Nat :=
  stripe r.stride ((r.last - r.first) / r.stride + 1) <<< r.first

def targets (r : CaseRun) : Nat :=
  stripe r.stride ((r.last - r.first) / r.stride + 1) <<< ((r.first : Int) + r.shift).toNat

/-- The run maps a code point. -/
def Maps (r : CaseRun) (n : Nat) : Prop :=
  r.first ≤ n ∧ n ≤ r.last ∧ (n - r.first) % r.stride = 0

theorem Maps.testBit_stripe (h : r.Maps n) :
    (stripe r.stride ((r.last - r.first) / r.stride + 1)).testBit (n - r.first) = true := by
  obtain ⟨hlow, hhigh, hstep⟩ := h
  rw [← Nat.mul_div_cancel' (Nat.dvd_of_mod_eq_zero hstep)]
  apply Stencil.testBit_stripe
  rw [Nat.lt_succ_iff]
  exact Nat.div_le_div_right (by omega)

theorem Maps.testBit_sources (h : r.Maps n) : r.sources.testBit n = true := by
  rw [sources, Nat.testBit_shiftLeft, h.testBit_stripe, Bool.and_true, decide_eq_true_eq]
  exact h.1

theorem Maps.testBit_targets (h : r.Maps n) (hr : 0 ≤ (r.first : Int) + r.shift) :
    r.targets.testBit ((n : Int) + r.shift).toNat = true := by
  have hlow := h.1
  have hplace : ((n : Int) + r.shift).toNat - ((r.first : Int) + r.shift).toNat = n - r.first := by
    omega
  rw [targets, Nat.testBit_shiftLeft, hplace, h.testBit_stripe, Bool.and_true, decide_eq_true_eq]
  omega

end CaseRun

namespace Text

variable {c d : CodePoint} {n : Nat} {runs : List CaseRun} {expansions : List (Nat × List Nat)}
  {letters images : Nat}

def caseSources (runs : List CaseRun) (expansions : List (Nat × List Nat)) : Nat :=
  union (runs.map CaseRun.sources ++ expansions.map fun e => 1 <<< e.1)

def caseTargets (runs : List CaseRun) (expansions : List (Nat × List Nat)) : Nat :=
  union (runs.map CaseRun.targets ++ expansions.flatMap fun e => e.2.map (1 <<< ·))

/-- The separators of words: where each block of them begins, and how many they are. -/
def separatorBlocks : List (Nat × Nat) :=
  [(9, 5), (28, 5), (0x2D, 1), (0x5F, 1), (0x85, 1), (0xA0, 1), (0x1680, 1), (0x2000, 11),
   (0x2028, 2), (0x202F, 1), (0x205F, 1), (0x3000, 1)]

def separators : Nat := union (separatorBlocks.map fun b => block b.1 b.2)

/-- A table maps to code points, to one at least, that it maps no further and that are no
separators. Of ASCII it maps the alphabet that begins at `letters`, to the one at `images`. -/
structure Settled (runs : List CaseRun) (expansions : List (Nat × List Nat))
    (letters images : Nat) : Prop where
  ne_nil : ∀ e ∈ expansions, e.2 ≠ []
  nonneg : ∀ r ∈ runs, 0 ≤ (r.first : Int) + r.shift
  bounded : caseTargets runs expansions >>> 0x110000 = 0
  apart : caseTargets runs expansions &&& (caseSources runs expansions ||| separators) = 0
  ascii : caseSources runs expansions &&& block 0 0x80 = block letters 26
  alphabet : ∀ n < 26,
    caseOf runs expansions (.ofNat (letters + n)) = [CodePoint.ofNat (images + n)]

/-! ## Tables by their characters -/

theorem testBit_caseSources_of_maps {r : CaseRun} (hr : r ∈ runs) (h : r.Maps n) :
    (caseSources runs expansions).testBit n = true :=
  testBit_union.2 ⟨_, List.mem_append_left _ (List.mem_map_of_mem hr), h.testBit_sources⟩

theorem testBit_caseSources_of_mem {e : Nat × List Nat} (he : e ∈ expansions) :
    (caseSources runs expansions).testBit e.1 = true :=
  testBit_union.2
    ⟨_, List.mem_append_right _ (List.mem_map_of_mem he), testBit_one_shiftLeft e.1⟩

theorem testBit_separators (h : isWordSeparator c = true) : separators.testBit c.toNat = true := by
  have hblock : ∃ b ∈ separatorBlocks, b.1 ≤ c.toNat ∧ c.toNat < b.1 + b.2 := by
    simp only [isWordSeparator, isBlank, Bool.or_eq_true, Bool.and_eq_true, decide_eq_true_eq,
      beq_iff_eq] at h
    rcases h with (hblank | rfl) | rfl
    · simp only [separatorBlocks, List.exists_mem_cons_iff, List.not_mem_nil, false_and,
        exists_false, or_false]
      omega
    · decide
    · decide
  obtain ⟨b, hb, hn⟩ := hblock
  exact testBit_union.2 ⟨_, List.mem_map_of_mem hb, testBit_block.2 hn⟩

theorem exists_maps_of_caseRun? {code : Nat} (h : caseRun? runs n = some code) :
    ∃ r ∈ runs, r.Maps n ∧ code = ((n : Int) + r.shift).toNat := by
  obtain ⟨r, hfind, rfl⟩ := Option.map_eq_some_iff.1 h
  refine ⟨r, List.mem_of_find?_eq_some hfind, ?_, rfl⟩
  simpa [CaseRun.Maps, and_assoc] using List.find?_some hfind

theorem caseOf_eq_self (h : (caseSources runs expansions).testBit c.toNat = false) :
    caseOf runs expansions c = [c] := by
  have hlookup : expansions.lookup c.toNat = none := by
    rw [List.lookup_eq_none_iff]
    intro e he
    rw [bne_iff_ne]
    intro heq
    rw [heq, testBit_caseSources_of_mem he] at h
    cases h
  have hrun : caseRun? runs c.toNat = none := by
    rw [caseRun?, Option.map_eq_none_iff, List.find?_eq_none]
    intro r hr hin
    have hmaps : r.Maps c.toNat := by simpa [CaseRun.Maps, and_assoc] using hin
    rw [testBit_caseSources_of_maps hr hmaps] at h
    cases h
  rw [caseOf, hlookup, hrun]

namespace Settled

variable (h : Settled runs expansions letters images)

include h

theorem testBit_of_testBit_caseTargets (hn : (caseTargets runs expansions).testBit n = true) :
    (caseSources runs expansions).testBit n = false ∧ separators.testBit n = false := by
  have hbit := congrArg (Nat.testBit · n) h.apart
  simpa [hn] using hbit

theorem letters_of_testBit (hn : (caseSources runs expansions).testBit n = true)
    (hascii : n < 0x80) : letters ≤ n ∧ n < letters + 26 := by
  have hblock : (block 0 0x80).testBit n = true := testBit_block.2 (by omega)
  rw [← testBit_block, ← h.ascii, Nat.testBit_and, hn, hblock]
  rfl

theorem caseOf_cases (c : CodePoint) :
    caseOf runs expansions c = [c] ∨
      caseOf runs expansions c ≠ [] ∧ ∀ d ∈ caseOf runs expansions c,
        (caseTargets runs expansions).testBit d.toNat = true := by
  have htoNat : ∀ n, (caseTargets runs expansions).testBit n = true →
      (caseTargets runs expansions).testBit (CodePoint.ofNat n).toNat = true := by
    intro n hn
    rwa [CodePoint.toNat_ofNat (lt_of_shiftRight h.bounded hn)]
  unfold caseOf
  -- Expansions come first, then the runs; what is in neither stays.
  split
  · next codes hcodes =>
    obtain ⟨l₁, l₂, heq, -⟩ := List.lookup_eq_some_iff.1 hcodes
    have hmem : (c.toNat, codes) ∈ expansions := by simp [heq]
    refine .inr ⟨by simpa using h.ne_nil _ hmem, ?_⟩
    intro d hd
    obtain ⟨n, hn, rfl⟩ := List.mem_map.1 hd
    have htarget : 1 <<< n ∈ expansions.flatMap fun e => e.2.map (1 <<< ·) :=
      List.mem_flatMap.2 ⟨_, hmem, List.mem_map_of_mem hn⟩
    exact htoNat n (testBit_union.2 ⟨_, List.mem_append_right _ htarget, testBit_one_shiftLeft n⟩)
  · split
    · next code hcode =>
      obtain ⟨r, hr, hmaps, rfl⟩ := exists_maps_of_caseRun? hcode
      refine .inr ⟨by simp, ?_⟩
      intro d hd
      obtain rfl := List.mem_singleton.1 hd
      have htarget := hmaps.testBit_targets (h.nonneg r hr)
      exact htoNat _
        (testBit_union.2 ⟨_, List.mem_append_left _ (List.mem_map_of_mem hr), htarget⟩)
    · exact .inl rfl

theorem caseOf_ne_nil : caseOf runs expansions c ≠ [] := by
  rcases h.caseOf_cases c with hself | ⟨hne, -⟩
  · simp [hself]
  · exact hne

theorem caseOf_caseOf (hd : d ∈ caseOf runs expansions c) : caseOf runs expansions d = [d] := by
  rcases h.caseOf_cases c with hself | ⟨-, htargets⟩
  · rw [hself, List.mem_singleton] at hd
    rwa [hd]
  · exact caseOf_eq_self (h.testBit_of_testBit_caseTargets (htargets d hd)).1

theorem eq_or_of_mem_caseOf (hd : d ∈ caseOf runs expansions c) :
    d = c ∨ isWordSeparator d = false := by
  rcases h.caseOf_cases c with hself | ⟨-, htargets⟩
  · rw [hself, List.mem_singleton] at hd
    exact .inl hd
  · right
    rw [Bool.eq_false_iff]
    intro hsep
    have hfree := (h.testBit_of_testBit_caseTargets (htargets d hd)).2
    rw [testBit_separators hsep] at hfree
    cases hfree

end Settled

theorem settled_lower : Settled lowerRuns lowerExpansions 65 97 :=
  ⟨by decide +kernel, by decide +kernel, by decide +kernel, by decide +kernel, by decide +kernel,
   by decide +kernel⟩

theorem settled_upper : Settled upperRuns upperExpansions 97 65 :=
  ⟨by decide +kernel, by decide +kernel, by decide +kernel, by decide +kernel, by decide +kernel,
   by decide +kernel⟩

end Text

end Stencil
