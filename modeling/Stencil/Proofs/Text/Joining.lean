import Stencil.Proofs.Text.LetterCase
import Stencil.Proofs.Text.Splitting

/-!
# Words that are joined

A name that is written with hyphens or underscores has the words it was written with, so that
writing it once more, with the same or with the other sign, changes nothing but the sign.
-/

namespace Stencil.Text

variable {sep : CodePoint} {s rest w : Text} {ws : List Text}

/-- A word that is cut nowhere, whatever stands behind it. -/
structure IsSmallWord (w : Text) : Prop where
  ne_nil : w ≠ []
  unseparated : ∀ c ∈ w, isWordSeparator c = false
  small : ∀ c ∈ w, isCapital c = false

theorem IsSmallWord.isWordBefore (h : IsSmallWord w) (hrest : rest.head?.all isWordSeparator) :
    IsWordBefore rest w where
  ne_nil := h.ne_nil
  unseparated := h.unseparated
  uncut := by
    intro c d back hsuffix
    rw [Bool.eq_false_iff]
    intro hhump
    have hd : d ∈ w := hsuffix.subset (by simp)
    have hcapital := isCapital_of_isUpper (isUpper_of_isHump hhump)
    rw [h.small d hd] at hcapital
    cases hcapital
  ends := by
    intro c d back _ hback
    subst hback
    exact .inl hrest

theorem isSmallWord_lower (h : w ∈ splitWords s) : IsSmallWord (lower w) := by
  obtain ⟨rest, hword⟩ := exists_isWordBefore_of_mem_splitWords h
  refine ⟨lower_ne_nil hword.ne_nil, ?_, ?_⟩
  · intro c hc
    exact isWordSeparator_of_mem_lower hword.unseparated hc
  · intro c hc
    exact isCapital_of_mem_lower hc

theorem areWords_join (hsep : isWordSeparator sep = true) (h : ∀ w ∈ ws, IsSmallWord w) :
    AreWords (join [sep] ws) ws := by
  induction ws with
  | nil => exact .nil
  | cons w ws ih =>
    rw [List.forall_mem_cons] at h
    by_cases hnil : ws = []
    · subst hnil
      exact .word (h.1.isWordBefore rfl) (List.append_nil w) .nil
    · rw [join_cons hnil]
      exact .word (h.1.isWordBefore (by simpa using hsep)) rfl (.separator hsep (ih h.2))

def joinWords (sep : CodePoint) (s : Text) : Text := join [sep] ((splitWords s).map lower)

theorem splitWords_joinWords (hsep : isWordSeparator sep = true) (s : Text) :
    splitWords (joinWords sep s) = (splitWords s).map lower := by
  apply (areWords_join hsep ?_).splitWords_eq
  intro w hw
  obtain ⟨v, hv, rfl⟩ := List.mem_map.1 hw
  exact isSmallWord_lower hv

theorem joinWords_joinWords (hsep : isWordSeparator sep = true) (other : CodePoint) (s : Text) :
    joinWords other (joinWords sep s) = joinWords other s := by
  have htwice : lower ∘ lower = lower := funext lower_lower
  rw [joinWords, splitWords_joinWords hsep, List.map_map, htwice, joinWords]

end Stencil.Text
