import Stencil.Text.Blank

/-!
# Pieces between separators

Splitting and joining undo each other, as long as no piece holds the separator.
-/

namespace Stencil.Text

variable {sep : CodePoint}

theorem splitOn_cons_self (s : Text) : splitOn sep (sep :: s) = [] :: splitOn sep s := by
  rw [splitOn, if_pos (beq_self_eq_true sep)]

theorem splitOn_cons_of_ne {c : CodePoint} {s piece : Text} {pieces : List Text} (h : c ≠ sep)
    (hs : splitOn sep s = piece :: pieces) : splitOn sep (c :: s) = (c :: piece) :: pieces := by
  rw [splitOn, if_neg (by simpa using h), hs]

theorem exists_splitOn_eq (sep : CodePoint) (s : Text) :
    ∃ piece pieces, splitOn sep s = piece :: pieces := by
  induction s with
  | nil => exact ⟨[], [], rfl⟩
  | cons c s ih =>
    by_cases h : c = sep
    · subst h
      exact ⟨_, _, splitOn_cons_self s⟩
    · obtain ⟨piece, pieces, hs⟩ := ih
      exact ⟨_, _, splitOn_cons_of_ne h hs⟩

theorem join_cons {piece : Text} {pieces : List Text} (h : pieces ≠ []) :
    join [sep] (piece :: pieces) = piece ++ sep :: join [sep] pieces := by
  cases pieces with
  | nil => exact absurd rfl h
  | cons p ps => simp [join]

theorem join_splitOn (sep : CodePoint) (s : Text) : join [sep] (splitOn sep s) = s := by
  induction s with
  | nil => rfl
  | cons c s ih =>
    obtain ⟨piece, pieces, hs⟩ := exists_splitOn_eq sep s
    by_cases h : c = sep
    · subst h
      rw [splitOn_cons_self, join_cons (by simp [hs]), ih, List.nil_append]
    · rw [hs] at ih
      rw [splitOn_cons_of_ne h hs, ← ih]
      cases pieces <;> simp [join]

theorem not_mem_of_mem_splitOn {s piece : Text} (h : piece ∈ splitOn sep s) : sep ∉ piece := by
  induction s generalizing piece with
  | nil =>
    obtain rfl := List.mem_singleton.1 h
    exact List.not_mem_nil
  | cons c s ih =>
    by_cases hc : c = sep
    · subst hc
      rw [splitOn_cons_self] at h
      rcases List.mem_cons.1 h with rfl | h
      · exact List.not_mem_nil
      · exact ih h
    · obtain ⟨first, pieces, hs⟩ := exists_splitOn_eq sep s
      rw [splitOn_cons_of_ne hc hs] at h
      rw [hs] at ih
      rcases List.mem_cons.1 h with rfl | h
      · exact fun hmem => (List.mem_cons.1 hmem).elim (Ne.symm hc) (ih List.mem_cons_self)
      · exact ih (List.mem_cons_of_mem _ h)

theorem splitOn_append_cons (s rest : Text) :
    splitOn sep (s ++ sep :: rest) = splitOn sep s ++ splitOn sep rest := by
  induction s with
  | nil => exact splitOn_cons_self rest
  | cons c s ih =>
    by_cases hc : c = sep
    · subst hc
      rw [List.cons_append, splitOn_cons_self, splitOn_cons_self, ih, List.cons_append]
    · obtain ⟨first, pieces, hs⟩ := exists_splitOn_eq sep s
      rw [hs, List.cons_append] at ih
      rw [List.cons_append, splitOn_cons_of_ne hc ih, splitOn_cons_of_ne hc hs, List.cons_append]

theorem splitOn_eq_singleton {piece : Text} (h : sep ∉ piece) : splitOn sep piece = [piece] := by
  induction piece with
  | nil => rfl
  | cons c piece ih =>
    rw [List.mem_cons, not_or] at h
    exact splitOn_cons_of_ne (Ne.symm h.1) (ih h.2)

theorem splitOn_append {piece rest : Text} (h : sep ∉ piece) :
    splitOn sep (piece ++ sep :: rest) = piece :: splitOn sep rest := by
  rw [splitOn_append_cons, splitOn_eq_singleton h, List.singleton_append]

theorem splitOn_join {pieces : List Text} (hne : pieces ≠ []) (h : ∀ piece ∈ pieces, sep ∉ piece) :
    splitOn sep (join [sep] pieces) = pieces := by
  induction pieces with
  | nil => exact absurd rfl hne
  | cons piece pieces ih =>
    obtain ⟨hpiece, hpieces⟩ := List.forall_mem_cons.1 h
    by_cases hnil : pieces = []
    · subst hnil
      exact splitOn_eq_singleton hpiece
    · rw [join_cons hnil, splitOn_append hpiece, ih hnil hpieces]

theorem mem_join {c : CodePoint} {sep : Text} {pieces : List Text} (h : c ∈ join sep pieces) :
    c ∈ sep ∨ ∃ piece ∈ pieces, c ∈ piece := by
  induction pieces with
  | nil => cases h
  | cons piece pieces ih =>
    cases pieces with
    | nil => exact .inr ⟨piece, List.mem_cons_self, h⟩
    | cons next pieces =>
      rw [join, List.mem_append, List.mem_append] at h
      · obtain (hpiece | hsep) | hrest := h
        · exact .inr ⟨piece, List.mem_cons_self, hpiece⟩
        · exact .inl hsep
        · obtain hsep | ⟨p, hp, hc⟩ := ih hrest
          · exact .inl hsep
          · exact .inr ⟨p, List.mem_cons_of_mem _ hp, hc⟩
      · exact List.cons_ne_nil next pieces

end Stencil.Text
