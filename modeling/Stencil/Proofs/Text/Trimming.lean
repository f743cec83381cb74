import Mathlib.Data.List.DropRight
import Mathlib.Data.List.TakeWhile
import Stencil.Text.Blank

/-!
# Blanks at the ends of texts

Blanks around a text do not change what trimming leaves, and a text with no blank at its two ends
is left as it is.
-/

namespace Stencil.Text

def Blanks (s : Text) : Prop := ∀ c ∈ s, isBlank c

instance (s : Text) : Decidable (Blanks s) := List.decidableBAll _ s

theorem blanks_nil : Blanks [] := by simp [Blanks]

/-- Whether a text has two ends, and neither is blank. -/
structure Tight (s : Text) : Prop where
  head : s.head?.any (!isBlank ·)
  last : s.getLast?.any (!isBlank ·)

instance (s : Text) : Decidable (Tight s) :=
  decidable_of_iff (s.head?.any (!isBlank ·) ∧ s.getLast?.any (!isBlank ·))
    ⟨fun h => ⟨h.1, h.2⟩, fun h => ⟨h.head, h.last⟩⟩

/-! ## Where a run stops -/

theorem takeWhile_stop {p : CodePoint → Bool} {s rest : Text} (hs : ∀ c ∈ s, p c)
    (hrest : rest.head?.all (!p ·)) : (s ++ rest).takeWhile p = s := by
  rw [List.takeWhile_append_of_pos hs]
  cases rest with
  | nil => simp
  | cons c rest => simp_all

theorem dropWhile_stop {p : CodePoint → Bool} {s rest : Text} (hs : ∀ c ∈ s, p c)
    (hrest : rest.head?.all (!p ·)) : (s ++ rest).dropWhile p = rest := by
  rw [List.dropWhile_append_of_pos hs]
  cases rest with
  | nil => rfl
  | cons c rest => simp_all

/-! ## Trimming -/

theorem trimStart_append {w : Text} (hw : Blanks w) (s : Text) :
    trimStart (w ++ s) = trimStart s :=
  List.dropWhile_append_of_pos hw

theorem trimStart_eq {s : Text} (h : s.head?.all (!isBlank ·)) : trimStart s = s := by
  have hstop := @dropWhile_stop isBlank [] s (by simp) h
  simpa [trimStart] using hstop

theorem trimStart_eq_nil_iff {s : Text} : trimStart s = [] ↔ Blanks s := List.dropWhile_eq_nil_iff

theorem trimStart_trimStart (s : Text) : trimStart (trimStart s) = trimStart s :=
  List.dropWhile_idempotent isBlank s

theorem trimEnd_eq_nil_iff {s : Text} : trimEnd s = [] ↔ Blanks s := by
  rw [trimEnd, List.reverse_eq_nil_iff, List.dropWhile_eq_nil_iff]
  simp [Blanks]

theorem isPrefix_trimEnd (s : Text) : trimEnd s <+: s := by
  rw [← List.reverse_suffix, trimEnd, List.reverse_reverse]
  exact List.dropWhile_suffix isBlank

theorem trim_eq_nil_iff {s : Text} : trim s = [] ↔ Blanks s := by
  rw [trim, trimEnd_eq_nil_iff, ← trimStart_eq_nil_iff, trimStart_trimStart, trimStart_eq_nil_iff]

theorem trimEnd_append {w : Text} (hw : Blanks w) (s : Text) : trimEnd (s ++ w) = trimEnd s := by
  have hreverse : ∀ c ∈ w.reverse, isBlank c := fun c hc => hw c (List.mem_reverse.1 hc)
  rw [trimEnd, trimEnd, List.reverse_append, List.dropWhile_append_of_pos hreverse]

theorem trimEnd_eq {s : Text} (h : s.getLast?.all (!isBlank ·)) : trimEnd s = s := by
  have hstop := @dropWhile_stop isBlank [] s.reverse (by simp) (by rwa [List.head?_reverse])
  rw [List.nil_append] at hstop
  rw [trimEnd, hstop, List.reverse_reverse]

theorem trim_append_left {w : Text} (hw : Blanks w) (s : Text) : trim (w ++ s) = trim s := by
  rw [trim, trim, trimStart_append hw]

theorem trim_append_right {w : Text} (hw : Blanks w) (s : Text) : trim (s ++ w) = trim s := by
  by_cases hs : Blanks s
  · rw [trim, trim, trimStart_append hs, trimStart_eq_nil_iff.2 hw, trimStart_eq_nil_iff.2 hs]
  · -- Something is left of `s`, so only the back of the text reaches into `w`.
    have hfront : trimStart (s ++ w) = trimStart s ++ w := by
      rw [trimStart, trimStart, List.dropWhile_append, if_neg]
      rwa [List.isEmpty_iff, List.dropWhile_eq_nil_iff]
    rw [trim, trim, hfront, trimEnd_append hw]

theorem exists_trimStart (s : Text) : ∃ w, Blanks w ∧ s = w ++ trimStart s := by
  refine ⟨s.takeWhile isBlank, ?_, (List.takeWhile_append_dropWhile).symm⟩
  exact List.all_eq_true.1 List.all_takeWhile

theorem exists_trimEnd (s : Text) : ∃ w, Blanks w ∧ s = trimEnd s ++ w := by
  obtain ⟨w, hw, hs⟩ := exists_trimStart s.reverse
  refine ⟨w.reverse, fun c hc => hw c (List.mem_reverse.1 hc), ?_⟩
  rw [trimEnd, ← List.reverse_append, ← trimStart, ← hs, List.reverse_reverse]

theorem exists_trim (s : Text) : ∃ w w', Blanks w ∧ Blanks w' ∧ s = w ++ trim s ++ w' := by
  obtain ⟨w, hw, hs⟩ := exists_trimStart s
  obtain ⟨w', hw', ht⟩ := exists_trimEnd (trimStart s)
  refine ⟨w, w', hw, hw', ?_⟩
  rw [List.append_assoc, trim, ← ht, ← hs]

theorem head?_trimStart (s : Text) : (trimStart s).head?.all (!isBlank ·) := by
  have hhead := List.head?_dropWhile_not isBlank s
  rw [trimStart]
  cases h : (s.dropWhile isBlank).head? <;> simp_all

namespace Tight

variable {s t w w' : Text}

theorem ne_nil (h : Tight s) : s ≠ [] := by
  rintro rfl
  cases h.head

theorem of_forall (hne : s ≠ []) (h : ∀ c ∈ s, isBlank c = false) : Tight s where
  head := by
    rw [List.head?_eq_some_head hne]
    simpa using h _ (List.head_mem hne)
  last := by
    rw [List.getLast?_eq_some_getLast hne]
    simpa using h _ (List.getLast_mem hne)

theorem append (hs : Tight s) (m : Text) (ht : Tight t) : Tight (s ++ (m ++ t)) where
  head := by
    obtain ⟨c, s, rfl⟩ := List.exists_cons_of_ne_nil hs.ne_nil
    exact hs.head
  last := by
    have hlast := ht.last
    rw [← List.append_assoc, List.getLast?_append]
    cases ht' : t.getLast? <;> simp_all

theorem trimStart_append (h : Tight s) (hw : Blanks w) (rest : Text) :
    trimStart (w ++ (s ++ rest)) = s ++ rest := by
  obtain ⟨c, s, rfl⟩ := List.exists_cons_of_ne_nil h.ne_nil
  rw [Text.trimStart_append hw, trimStart_eq]
  simpa using h.head

theorem trim_eq (h : Tight s) : trim s = s := by
  have hstart : trimStart s = s := by
    simpa using h.trimStart_append (w := []) (by simp [Blanks]) []
  rw [trim, hstart, trimEnd_eq]
  have hlast := h.last
  cases hs : s.getLast? <;> simp_all

theorem trim_pad (h : Tight s) (hw : Blanks w) (hw' : Blanks w') : trim (w ++ s ++ w') = s := by
  rw [trim_append_right hw', trim_append_left hw, h.trim_eq]

theorem of_suffix (h : Tight s) (ht : t <:+ s) (hne : t ≠ [])
    (hhead : t.head?.all (!isBlank ·)) : Tight t where
  head := by
    rw [List.head?_eq_some_head hne] at hhead ⊢
    exact hhead
  last := by
    obtain ⟨lead, rfl⟩ := ht
    have hlast := h.last
    rw [List.getLast?_append, List.getLast?_eq_some_getLast hne, Option.some_or] at hlast
    rwa [List.getLast?_eq_some_getLast hne]

end Tight

theorem not_isBlank_of_head?_dropWhile {s : Text} {c : CodePoint}
    (h : (s.dropWhile isBlank).head? = some c) : isBlank c = false := by
  have hhead := List.head?_dropWhile_not isBlank s
  rwa [h] at hhead

theorem tight_trim {s : Text} (h : trim s ≠ []) : Tight (trim s) where
  head := by
    obtain ⟨c, rest, hc⟩ := List.exists_cons_of_ne_nil h
    obtain ⟨back, hback⟩ := isPrefix_trimEnd (trimStart s)
    have hstart : (trimStart s).head? = some c := by
      rw [← hback, ← trim, hc]
      rfl
    simp [hc, not_isBlank_of_head?_dropWhile hstart]
  last := by
    cases hc : (trim s).getLast? with
    | none => exact absurd (List.getLast?_eq_none_iff.1 hc) h
    | some c =>
      rw [trim, trimEnd, List.getLast?_reverse] at hc
      simp [not_isBlank_of_head?_dropWhile hc]

theorem trim_trim (s : Text) : trim (trim s) = trim s := by
  by_cases h : trim s = []
  · rw [h]
    rfl
  · exact (tight_trim h).trim_eq

end Stencil.Text
