import Stencil.Proofs.Condition.Written
import Stencil.Proofs.Text.Parts

/-!
# Parts of a condition

The paths and literals of a condition that is read stand in its text.
-/

namespace Stencil

open Text

variable {s term path value p v : Text} {t : Term}

/-! ## Terms -/

theorem isInfix_negation (negated : Bool) (w s : Text) : s <:+: negation negated w s := by
  cases negated with
  | false => exact List.infix_refl s
  | true => exact ⟨'!' :: w, [], by simp [negation]⟩

theorem Literal.Written.isInfix_text {l : Literal} {token : Text} (h : l.Written token) :
    l.text <:+: token := by
  cases h with
  | @quoted q body _ => exact ⟨[q], [q], rfl⟩
  | bare => exact List.infix_refl _

namespace Term

/-- The path of a term, and the text that it is compared with. -/
def parts : Term → List Text
  | truth path _ => [path]
  | compare path _ l => [path, l.text]
  | member path l _ => [path, l.text]

theorem Written.isInfix {token? : Option Text} (h : t.Written token? s) :
    ∀ part ∈ t.parts, part <:+: s := by
  cases h with
  | truth => simpa [parts] using isInfix_negation _ _ _
  | @compare p w w' token op l _ _ _ hl _ =>
    have hpath : p <:+: p ++ w ++ op.symbol ++ w' ++ token :=
      ⟨[], w ++ op.symbol ++ w' ++ token, by simp⟩
    have htoken : token <:+: p ++ w ++ op.symbol ++ w' ++ token := (List.suffix_append _ _).isInfix
    simp only [parts, List.forall_mem_cons]
    exact ⟨hpath, hl.isInfix_text.trans htoken, List.forall_mem_nil _⟩
  | @has p w w' token l _ _ _ hl _ =>
    have hpath : p <:+: text "has" ++ w ++ p ++ w' ++ token :=
      ⟨text "has" ++ w, w' ++ token, by simp⟩
    have htoken : token <:+: text "has" ++ w ++ p ++ w' ++ token :=
      (List.suffix_append _ _).isInfix
    simp only [parts, List.forall_mem_cons]
    exact ⟨hpath, hl.isInfix_text.trans htoken, List.forall_mem_nil _⟩
  | @includes p v w w' token l negated _ _ _ _ hl _ =>
    have hpath : p <:+: inclusion p w token w' :=
      ⟨[], text ".includes(" ++ (w ++ token ++ w') ++ [chr ')'], by simp [inclusion]⟩
    have htoken : token <:+: inclusion p w token w' :=
      ⟨p ++ text ".includes(" ++ w, w' ++ [chr ')'], by simp [inclusion]⟩
    have hwhole := isInfix_negation negated v (inclusion p w token w')
    simp only [parts, List.forall_mem_cons]
    exact ⟨hpath.trans hwhole, (hl.isInfix_text.trans htoken).trans hwhole,
      List.forall_mem_nil _⟩

theorem isInfix_of_read (h : Term.read s = .ok t) : ∀ part ∈ t.parts, part <:+: s := by
  obtain ⟨token?, hwritten⟩ := written_of_read h
  exact fun part hpart => (hwritten.isInfix part hpart).trans (isInfix_trim s)

end Term

/-! ## Conditions -/

theorem Condition.isInfix_of_read {c : Condition} (h : Condition.read s = .ok c) :
    ∀ t ∈ c.terms, ∀ part ∈ t.parts, part <:+: s := by
  intro t ht part hpart
  obtain ⟨pieces, rfl, hread⟩ := exists_pieces h
  obtain ⟨piece, hpiece, hterm⟩ := Outcome.exists_of_mem_mapM (Outcome.mapM_eq_ok_iff.2 hread) ht
  exact (Term.isInfix_of_read hterm part hpart).trans (isInfix_join hpiece)

end Stencil
