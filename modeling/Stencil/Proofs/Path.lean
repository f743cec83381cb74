import Mathlib.Data.List.TakeWhile
import Stencil.Disk
import Stencil.Proofs.Text.Splitting

/-!
# Written paths

A path is written as its names with slashes between them. The names are found again, and a name
that is added behind a written path is added to its names.
-/

namespace Stencil.Path

variable {name s t d : Text} {p q f here : Path}

/-- A name that a written path can hold. -/
structure IsName (name : Text) : Prop where
  ne_nil : name ≠ []
  ne_dot : name ≠ [chr '.']
  slashless : chr '/' ∉ name

instance (name : Text) : Decidable (IsName name) :=
  decidable_of_iff (name ≠ [] ∧ name ≠ [chr '.'] ∧ chr '/' ∉ name)
    ⟨fun ⟨hnil, hdot, hslash⟩ => ⟨hnil, hdot, hslash⟩, fun h => ⟨h.1, h.2, h.3⟩⟩

theorem isName_of_mem_names (h : name ∈ names s) : IsName name := by
  obtain ⟨hmem, hkept⟩ := List.mem_filter.1 h
  rw [Bool.and_eq_true, Bool.not_eq_true', List.isEmpty_eq_false_iff, bne_iff_ne] at hkept
  exact ⟨hkept.1, hkept.2, Text.not_mem_of_mem_splitOn hmem⟩

theorem filter_names (h : ∀ name ∈ p, IsName name) :
    (p.filter fun name => !name.isEmpty && name != [chr '.']) = p := by
  rw [List.filter_eq_self]
  intro name hname
  simp [(h name hname).ne_nil, (h name hname).ne_dot]

theorem names_relativeText (h : ∀ name ∈ p, IsName name) : names (relativeText p) = p := by
  cases p with
  | nil => rfl
  | cons name p =>
    have hsplit := Text.splitOn_join (List.cons_ne_nil name p) fun n hn => (h n hn).slashless
    rw [names, relativeText, hsplit, filter_names h]

theorem relativeText_inj (hp : p ≠ []) (hq : q ≠ []) (hps : ∀ name ∈ p, chr '/' ∉ name)
    (hqs : ∀ name ∈ q, chr '/' ∉ name) (h : relativeText p = relativeText q) : p = q := by
  unfold relativeText at h
  rw [← Text.splitOn_join hp hps, h, Text.splitOn_join hq hqs]

/-! ## Paths below a written path -/

/-- The text writes the place that is `f` below the one that `d` writes. -/
structure Joins (d : Text) (f : Path) (s : Text) : Prop where
  lead_eq : lead s = lead d
  names_eq : names s = names d ++ f

/-- A slash between a folder and a path below it writes the place, unless the folder is written
with slashes alone. -/
theorem joins_slash (hd : ∃ c ∈ d, c ≠ '/') (hf : ∀ name ∈ f, IsName name) :
    Joins d f (d ++ chr '/' :: relativeText f) where
  lead_eq := by
    have hstop : ¬ (d.takeWhile (· == chr '/')).length = d.length := by
      intro hlen
      have hall := List.takeWhile_eq_self_iff.1 ((List.takeWhile_sublist _).eq_of_length hlen)
      obtain ⟨c, hc, hne⟩ := hd
      exact hne (by simpa using hall c hc)
    rw [lead, lead, List.takeWhile_append, if_neg hstop]
  names_eq := by
    have hsplit := @Text.splitOn_append_cons '/' d (relativeText f)
    rw [names, hsplit, List.filter_append]
    exact congrArg (names d ++ ·) (names_relativeText hf)

theorem isAbsolute_eq (s : Text) : isAbsolute s = !(lead s).isEmpty := by
  cases s with
  | nil => rfl
  | cons c s =>
    unfold isAbsolute lead
    by_cases hc : c = '/'
    · rw [List.takeWhile_cons_of_pos (by simpa using hc), List.length_cons]
      split
      · next h => omega
      · simp [hc]
      · simp [hc]
    · rw [List.takeWhile_cons_of_neg (by simpa using hc)]
      simpa using hc

theorem Joins.seenFrom (h : Joins d f s) : seenFrom here s = seenFrom here d ++ f := by
  rw [Path.seenFrom, Path.seenFrom, isAbsolute_eq, isAbsolute_eq, h.lead_eq, h.names_eq]
  split <;> simp

theorem below_eq (h : names s ++ p ≠ []) : below s p = lead s ++ relativeText (names s ++ p) := by
  unfold below
  split
  · next hnil => exact absurd hnil h
  · rfl

theorem Joins.below (h : Joins d f s) : below s [] = below d f := by
  rw [Path.below, Path.below, h.lead_eq, h.names_eq, List.append_nil]

/-- Two places below one written path are written differently. -/
theorem below_inj (hp : p ≠ []) (hq : q ≠ []) (hps : ∀ name ∈ p, IsName name)
    (hqs : ∀ name ∈ q, IsName name) (h : below d p = below d q) : p = q := by
  rw [below_eq (by simp [hp]), below_eq (by simp [hq]), List.append_cancel_left_eq] at h
  have hslashless : ∀ {r : Path}, (∀ name ∈ r, IsName name) →
      ∀ name ∈ names d ++ r, chr '/' ∉ name := by
    intro r hr name hname
    rcases List.mem_append.1 hname with hname | hname
    · exact (isName_of_mem_names hname).slashless
    · exact (hr name hname).slashless
  have hwhole := relativeText_inj (by simp [hp]) (by simp [hq]) (hslashless hps)
    (hslashless hqs) h
  exact List.append_cancel_left hwhole

end Stencil.Path
