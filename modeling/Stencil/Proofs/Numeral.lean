import Mathlib.Data.List.TakeWhile
import Stencil.Binary64.Shortest
import Stencil.Numeral
import Stencil.Proofs.Outcome

/-!
# Texts that numbers are looked for in

A text with no separator among the blanks at its ends is a number or none, and digits that are
decimal and not too many are an index. Written numbers have no separators.
-/

namespace Stencil

open Outcome Numeral

/-! ## Texts without separators -/

namespace Numeral

/-- The text has no separator anywhere. -/
def Unseparated (s : Text) : Prop := ∀ c ∈ s, isSeparator c = false

instance (s : Text) : Decidable (Unseparated s) := List.decidableBAll _ s

/-- Whether no separator is among the blanks at either end. -/
def isClean (s : Text) : Bool := !startsSeparated s && !startsSeparated s.reverse

variable {s t : Text} {c : CodePoint}

theorem startsSeparated_cons_of_not_isBlank (h : Text.isBlank c = false) :
    startsSeparated (c :: s) = false := by
  simp [startsSeparated, h]

theorem startsSeparated_append (hs : startsSeparated s = false) (ht : startsSeparated t = false) :
    startsSeparated (s ++ t) = false := by
  induction s with
  | nil => exact ht
  | cons c s ih =>
    unfold startsSeparated at hs ih ⊢
    cases hc : Text.isBlank c with
    | false => simp [hc]
    | true =>
      simp only [List.takeWhile_cons, hc, if_true, List.any_cons, Bool.or_eq_false_iff] at hs
      simp [hc, hs.1, ih hs.2]

theorem Unseparated.append (hs : Unseparated s) (ht : Unseparated t) : Unseparated (s ++ t) :=
  List.forall_mem_append.2 ⟨hs, ht⟩

theorem Unseparated.sublist (ht : Unseparated t) (h : s.Sublist t) : Unseparated s :=
  fun c hc => ht c (h.subset hc)

theorem Unseparated.startsSeparated (h : Unseparated s) : startsSeparated s = false := by
  rw [Numeral.startsSeparated, List.any_eq_false]
  intro c hc
  simp [h c ((List.takeWhile_sublist _).subset hc)]

theorem isClean_iff :
    isClean s = true ↔ startsSeparated s = false ∧ startsSeparated s.reverse = false := by
  simp [isClean]

theorem Unseparated.isClean (h : Unseparated s) : isClean s = true := by
  have hreverse : Unseparated s.reverse := fun c hc => h c (List.mem_reverse.1 hc)
  exact isClean_iff.2 ⟨h.startsSeparated, hreverse.startsSeparated⟩

theorem isClean_append (hs : isClean s = true) (ht : isClean t = true) :
    isClean (s ++ t) = true := by
  rw [isClean_iff] at hs ht ⊢
  rw [List.reverse_append]
  exact ⟨startsSeparated_append hs.1 ht.1, startsSeparated_append ht.2 hs.2⟩

theorem number_returns (h : isClean s = true) : Returns (number s) fun _ => True := by
  obtain ⟨hfront, hback⟩ := isClean_iff.1 h
  unfold number
  rw [hfront, hback]
  split
  · exact .pure trivial
  · exact .pure trivial

/-! ## Indexes -/

theorem exists_decimalNumber? (h : ∀ c ∈ s, Text.isDecimal c = true) :
    ∃ n, Text.decimalNumber? s = some n := by
  unfold Text.decimalNumber?
  -- The digits in front have made some number already.
  generalize 0 = n
  induction s generalizing n with
  | nil => exact ⟨n, rfl⟩
  | cons c s ih =>
    obtain ⟨hc, hs⟩ := List.forall_mem_cons.1 h
    obtain ⟨d, hd⟩ := Option.isSome_iff_exists.1 hc
    simp only [List.foldlM_cons, hd, Option.map_some]
    exact ih hs _

theorem index_of_decimal {n : Nat} (hne : s ≠ []) (hdecimal : ∀ c ∈ s, Text.isDecimal c = true)
    (hle : s.length ≤ maxDigits) (hn : Text.decimalNumber? s = some n) :
    index s = .ok (some n) := by
  have hlead : s.takeWhile Text.isDecimal = s := List.takeWhile_eq_self_iff.2 hdecimal
  have hdigits : s.all Text.isDigit = true :=
    List.all_eq_true.2 fun c hc => by rw [Text.isDigit, hdecimal c hc, Bool.true_or]
  have hsome : ¬(s.isEmpty || !s.all Text.isDigit) = true := by simp [hne, hdigits]
  unfold index
  rw [if_neg hsome]
  dsimp only
  rw [hlead, if_neg (Nat.not_lt.2 hle), hn]

end Numeral

/-- No part of the text stops a conversion: all digits are decimal, no run of them is too long,
and there are no separators. -/
structure Text.Tame (s : Text) : Prop where
  decimal : ∀ c ∈ s, isDigit c = true → isDecimal c = true
  short : ∀ run, run <:+: s → run.all isDecimal = true → run.length ≤ maxDigits
  unseparated : Unseparated s

theorem Text.Tame.part {s t : Text} (h : Tame s) (ht : t <:+: s) : Tame t where
  decimal := fun c hc => h.decimal c (ht.subset hc)
  short := fun run hrun => h.short run (hrun.trans ht)
  unseparated := h.unseparated.sublist ht.sublist

theorem Text.Tame.of_all {s : Text}
    (h : s.all (fun c => (!isDigit c || isDecimal c) && !isSeparator c) = true)
    (hs : s.length ≤ maxDigits) : Tame s := by
  have hchars := List.all_eq_true.1 h
  simp only [Bool.and_eq_true, Bool.or_eq_true, Bool.not_eq_true'] at hchars
  refine ⟨fun c hc hdigit => ?_, fun run hrun _ => hrun.length_le.trans hs,
    fun c hc => (hchars c hc).2⟩
  obtain hnone | hdecimal := (hchars c hc).1
  · rw [hdigit] at hnone
    cases hnone
  · exact hdecimal

theorem Numeral.index_returns {s : Text} (h : s.Tame) : Returns (index s) fun _ => True := by
  by_cases hall : (s.isEmpty || !s.all Text.isDigit) = true
  · unfold index
    rw [if_pos hall]
    exact .pure trivial
  · rw [Bool.or_eq_true, not_or, List.isEmpty_iff, Bool.not_eq_true', Bool.not_eq_false] at hall
    have hdecimal : ∀ c ∈ s, Text.isDecimal c = true :=
      fun c hc => h.decimal c hc (List.all_eq_true.1 hall.2 c hc)
    have hle : s.length ≤ maxDigits := h.short s (List.infix_refl s) (List.all_eq_true.2 hdecimal)
    obtain ⟨n, hn⟩ := exists_decimalNumber? hdecimal
    exact ⟨some n, index_of_decimal hall.1 hdecimal hle hn, trivial⟩

/-! ## Written numbers -/

namespace Text

theorem isDigit_chr {c : Char} (h : c.isDigit = true) : (chr c).isDigit = true := by
  rw [Char.isDigit, Bool.and_eq_true, decide_eq_true_eq, decide_eq_true_eq] at h
  exact CodePoint.isDigit_iff.2 h

theorem isSeparator_of_isDigit {c : CodePoint} (h : c.isDigit = true) :
    Numeral.isSeparator c = false := by
  obtain ⟨hlow, -⟩ := CodePoint.isDigit_iff.1 h
  rw [Numeral.isSeparator, Bool.and_eq_false_iff, decide_eq_false_iff_not,
    decide_eq_false_iff_not]
  omega

theorem isBlank_of_isDigit {c : CodePoint} (h : c.isDigit = true) : isBlank c = false := by
  have hbounds := CodePoint.isDigit_iff.1 h
  simp only [isBlank, Bool.or_eq_false_iff, Bool.and_eq_false_iff, decide_eq_false_iff_not,
    beq_eq_false_iff_ne]
  omega

theorem decimalValue?_of_isDigit {c : CodePoint} (h : c.isDigit = true) :
    decimalValue? c = some (c.toNat - '0'.toNat) := by
  obtain ⟨hlow, hhigh⟩ := CodePoint.isDigit_iff.1 h
  have hzero : decimalZeros.find? (fun z => z ≤ c.toNat && c.toNat < z + 10) = some 0x30 := by
    refine List.find?_cons_of_pos ?_
    simp only [Bool.and_eq_true, decide_eq_true_eq]
    omega
  rw [decimalValue?, hzero]
  rfl

theorem decimalNumber?_of_isDigit {s : List Char} (h : ∀ c ∈ s, c.isDigit = true) :
    decimalNumber? (s.map chr) = some (Nat.ofDigitChars 10 s 0) := by
  unfold decimalNumber?
  -- The digits in front have made some number already.
  generalize 0 = n
  induction s generalizing n with
  | nil => rfl
  | cons c s ih =>
    obtain ⟨hc, hs⟩ := List.forall_mem_cons.1 h
    rw [List.map_cons, List.foldlM_cons, decimalValue?_of_isDigit (isDigit_chr hc),
      Nat.ofDigitChars_cons]
    exact ih hs _

theorem ofNat_ne_nil (n : Nat) : ofNat n ≠ [] :=
  fun h => Nat.toDigits_ne_nil (List.map_eq_nil_iff.1 h)

theorem isDigit_ofNat (n : Nat) : ∀ c ∈ ofNat n, c.isDigit = true := by
  intro c hc
  obtain ⟨d, hd, rfl⟩ := List.mem_map.1 hc
  exact isDigit_chr (Nat.isDigit_of_mem_toDigits (by decide) (by decide) hd)

theorem length_ofNat_le {n k : Nat} (hk : 0 < k) (h : ¬Nat.pow 10 k ≤ n) :
    (ofNat n).length ≤ k := by
  rw [ofNat, List.length_map]
  exact (Nat.length_toDigits_le_iff (by decide) hk).2 (Nat.not_le.1 h)

theorem isDecimal_of_mem_ofNat {n : Nat} {c : CodePoint} (hc : c ∈ ofNat n) :
    isDecimal c = true := by
  rw [isDecimal, decimalValue?_of_isDigit (isDigit_ofNat n c hc)]
  rfl

theorem decimalNumber?_ofNat (n : Nat) : decimalNumber? (ofNat n) = some n := by
  rw [ofNat, decimalNumber?_of_isDigit fun _ hc =>
    Nat.isDigit_of_mem_toDigits (by decide) (by decide) hc,
    Nat.ofDigitChars_toDigits (by decide) (by decide)]

theorem index_ofNat {n : Nat} (h : isTooLong n = false) : index (ofNat n) = .ok (some n) := by
  rw [isTooLong, decide_eq_false_iff_not, Int.natAbs_natCast] at h
  have hlength : (ofNat n).length ≤ maxDigits := length_ofNat_le (by decide) h
  exact index_of_decimal (ofNat_ne_nil n) (fun _ => isDecimal_of_mem_ofNat) hlength
    (decimalNumber?_ofNat n)

theorem unseparated_ofNat (n : Nat) : Unseparated (ofNat n) :=
  fun c hc => isSeparator_of_isDigit (isDigit_ofNat n c hc)

theorem unseparated_ofInt (n : Int) : Unseparated (ofInt n) := by
  cases n with
  | ofNat n => exact unseparated_ofNat n
  | negSucc n => exact List.forall_mem_cons.2 ⟨by decide, unseparated_ofNat (n + 1)⟩

end Text

namespace Binary64

theorem unseparated_zeros (n : Nat) : Unseparated (List.replicate n (chr '0')) := by
  intro c hc
  rw [List.eq_of_mem_replicate hc]
  decide

variable {digits : Text}

theorem unseparated_positional (place : Int) (h : Unseparated digits) :
    Unseparated (positional digits place) := by
  have hpoint : Unseparated (text "0.") := by decide
  have hfraction : ∀ n,
      Unseparated (if (digits.drop n).isEmpty then [chr '0'] else digits.drop n) := by
    intro n
    split
    · decide
    · exact h.sublist (List.drop_sublist _ _)
  unfold positional
  split
  · exact (hpoint.append (unseparated_zeros _)).append h
  · have hwhole := h.sublist (List.take_sublist place.toNat digits)
    exact ((hwhole.append (unseparated_zeros _)).append (by decide)).append (hfraction _)

theorem unseparated_scientific (exponent : Int) (h : Unseparated digits) :
    Unseparated (scientific digits exponent) := by
  have hfraction : Unseparated (if digits.length ≤ 1 then [] else [chr '.'] ++ digits.drop 1) := by
    split
    · decide
    · exact .append (by decide) (h.sublist (List.drop_sublist _ _))
  have hsign : Unseparated (if exponent < 0 then text "e-" else text "e+") := by
    split <;> decide
  unfold scientific
  exact ((((h.sublist (List.take_sublist _ _)).append hfraction).append hsign).append
    (unseparated_zeros _)).append (Text.unseparated_ofNat _)

theorem unseparated_magnitudeText (steps : Nat) : Unseparated (magnitudeText steps) := by
  unfold magnitudeText
  split
  · decide
  · have hdigits : ∀ d, Unseparated ((Text.ofNat d).reverse.dropWhile (· == chr '0')).reverse := by
      intro d c hc
      rw [List.mem_reverse] at hc
      exact Text.unseparated_ofNat d c (List.mem_reverse.1 ((List.dropWhile_sublist _).subset hc))
    dsimp only
    split
    · exact unseparated_positional _ (hdigits _)
    · exact unseparated_scientific _ (hdigits _)

theorem unseparated_toText (x : Binary64) : Unseparated x.toText := by
  have hsign : ∀ negative : Bool, Unseparated (if negative then [chr '-'] else []) := by decide
  cases x with
  | finite negative steps => exact (hsign negative).append (unseparated_magnitudeText steps)
  | infinite negative => exact (hsign negative).append (by decide)
  | nan => exact (by decide : Unseparated (text "nan"))

end Binary64

end Stencil
