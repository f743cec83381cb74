import Mathlib.Data.List.Infix
import Stencil.Proofs.Text.Splitting
import Stencil.Proofs.Text.Trimming
import Stencil.Template.Reference

/-!
# Parts of a text

Whatever is cut out of a text stands in it as one run of characters.
-/

namespace Stencil

namespace Text

variable {s : Text}

theorem isInfix_takeWhile (p : CodePoint → Bool) (s : Text) : s.takeWhile p <:+: s := by
  apply List.IsPrefix.isInfix
  exact List.takeWhile_prefix p

theorem isInfix_dropWhile (p : CodePoint → Bool) (s : Text) : s.dropWhile p <:+: s :=
  (List.dropWhile_suffix p).isInfix

theorem isInfix_cons (c : CodePoint) (s : Text) : s <:+: c :: s := (List.suffix_cons c s).isInfix

theorem isInfix_trimStart (s : Text) : trimStart s <:+: s := isInfix_dropWhile _ s

theorem isInfix_trimEnd (s : Text) : trimEnd s <:+: s := (isPrefix_trimEnd s).isInfix

theorem isInfix_trim (s : Text) : trim s <:+: s :=
  (isInfix_trimEnd _).trans (isInfix_trimStart s)

theorem isInfix_join {sep piece : Text} {pieces : List Text} (h : piece ∈ pieces) :
    piece <:+: join sep pieces := by
  induction pieces with
  | nil => cases h
  | cons first pieces ih =>
    obtain rfl | h := List.mem_cons.1 h
    · cases pieces with
      | nil => exact List.infix_refl _
      | cons second pieces => exact ⟨[], sep ++ join sep (second :: pieces), by simp [join]⟩
    · cases pieces with
      | nil => cases h
      | cons second pieces =>
        exact (ih h).trans ⟨first ++ sep, [], by simp [join]⟩

theorem isInfix_of_mem_splitOn {sep : CodePoint} {piece : Text} (h : piece ∈ splitOn sep s) :
    piece <:+: s := by
  rw [← join_splitOn sep s]
  exact isInfix_join h

theorem isInfix_of_cut? {sep : CodePoint} {front back : Text}
    (h : cut? sep s = some (front, back)) :
    front <:+: s ∧ back <:+: s := by
  unfold cut? at h
  split at h
  · cases h
  · next c _ hrest =>
    cases h
    have hback : back <:+: s.dropWhile (· != sep) := by
      rw [hrest]
      exact isInfix_cons c back
    exact ⟨isInfix_takeWhile _ s, hback.trans (isInfix_dropWhile _ s)⟩

theorem after?_append (lead rest : Text) : after? lead (lead ++ rest) = some rest := by
  induction lead with
  | nil => rfl
  | cons c lead ih => simp [after?, ih]

theorem isSome_after?_iff {lead s : Text} : (after? lead s).isSome = true ↔ lead <+: s := by
  constructor
  · intro h
    obtain ⟨rest, hrest⟩ := Option.isSome_iff_exists.1 h
    exact ⟨rest, (eq_append_of_after? hrest).symm⟩
  · rintro ⟨rest, rfl⟩
    rw [after?_append]
    rfl

theorem has_iff {part s : Text} : has part s = true ↔ part <:+: s := by
  induction s with
  | nil => rw [has, List.isEmpty_iff, List.infix_nil]
  | cons c s ih => rw [has, Bool.or_eq_true, isSome_after?_iff, ih, List.infix_cons_iff]

theorem not_mem_of_cut? {sep : CodePoint} {front back : Text}
    (h : cut? sep s = some (front, back)) :
    sep ∉ front := by
  unfold cut? at h
  split at h
  · cases h
  · cases h
    intro hmem
    have hne := List.all_eq_true.1 List.all_takeWhile sep hmem
    simp at hne

end Text

/-! ## References in a text -/

theorem Segment.isInfix_source {body : Text} {segment : Segment} (h : segment ∈ ofText false body) :
    segment.source <:+: body := by
  obtain ⟨front, back, hsplit⟩ := List.append_of_mem h
  have hbody := flatMap_source_ofText false body
  rw [hsplit] at hbody
  exact ⟨front.flatMap source, back.flatMap source, by simpa using hbody⟩

theorem Reference.isInfix_path (inner : Text) : (ofInner inner).path <:+: inner := by
  unfold ofInner
  split
  · exact Text.isInfix_trim inner
  · next path transform h => exact (Text.isInfix_trim path).trans (Text.isInfix_of_cut? h).1

end Stencil
