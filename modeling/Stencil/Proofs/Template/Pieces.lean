import Stencil.Proofs.Template.Marker

/-!
# The pieces of a template

Cutting a template gives the only list of pieces that makes the template again, has no marker
inside a text and no two texts side by side. So a marker cuts a template into two parts that are
cut on their own.
-/

namespace Stencil

/-! ## Texts that hold markers -/

/-- Whether a block marker stands somewhere in the text. -/
def HoldsToken (s : Text) : Prop :=
  ∃ lead t rest, Token.WellFormed t ∧ s = lead ++ t.source ++ rest

theorem not_holdsToken_nil : ¬HoldsToken [] := by
  rintro ⟨lead, t, rest, -, h⟩
  obtain ⟨hlead, -⟩ := List.append_eq_nil_iff.1 h.symm
  exact t.source_ne_nil (List.append_eq_nil_iff.1 hlead).2

theorem holdsToken_cons {c : CodePoint} {s : Text} :
    HoldsToken (c :: s) ↔ (Token.take? (c :: s)).isSome ∨ HoldsToken s := by
  constructor
  · rintro ⟨lead, t, rest, ht, h⟩
    cases lead with
    | nil =>
      left
      rw [h, List.nil_append, Token.take?_source_append ht]
      rfl
    | cons d lead =>
      right
      simp only [List.cons_append, List.cons.injEq] at h
      exact ⟨lead, t, rest, ht, h.2⟩
  · rintro (h | ⟨lead, t, rest, ht, rfl⟩)
    · obtain ⟨⟨t, rest⟩, h⟩ := Option.isSome_iff_exists.1 h
      obtain ⟨ht, h⟩ := Token.take?_eq_some_iff.1 h
      exact ⟨[], t, rest, ht, h⟩
    · exact ⟨c :: lead, t, rest, ht, rfl⟩

instance decidableHoldsToken : (s : Text) → Decidable (HoldsToken s)
  | [] => .isFalse not_holdsToken_nil
  | c :: s =>
    have := decidableHoldsToken s
    decidable_of_iff ((Token.take? (c :: s)).isSome ∨ HoldsToken s) holdsToken_cons.symm

namespace Piece

def startsPlain : List Piece → Bool
  | plain _ :: _ => true
  | _ => false

/-- The lists of pieces that cutting a template can give. -/
inductive Normal : List Piece → Prop
  | nil : Normal []
  | marker {t ps} : t.WellFormed → Normal ps → Normal (marker t :: ps)
  | plain {body ps} : body ≠ [] → ¬HoldsToken body → startsPlain ps = false → Normal ps →
      Normal (plain body :: ps)

/-- What a piece of a template is: a text that is not empty and holds no marker, or a marker. -/
def Proper : Piece → Prop
  | .plain body => body ≠ [] ∧ ¬HoldsToken body
  | .marker t => t.WellFormed

theorem Normal.proper {ps : List Piece} (h : Normal ps) : ∀ p ∈ ps, p.Proper := by
  induction h with
  | nil => simp
  | marker ht _ ih => exact List.forall_mem_cons.2 ⟨ht, ih⟩
  | plain hne hb _ _ ih => exact List.forall_mem_cons.2 ⟨⟨hne, hb⟩, ih⟩

/-! ## What is cut is normal -/

theorem normal_push {c : CodePoint} {ps : List Piece} (h : Normal ps)
    (hc : Token.take? (c :: ps.flatMap source) = none) : Normal (push c ps) := by
  have hbody : ∀ body rest, ps.flatMap source = body ++ rest → ¬HoldsToken body →
      ¬HoldsToken (c :: body) := by
    intro body rest hs hb hcb
    rcases holdsToken_cons.1 hcb with htake | hcb
    · obtain ⟨⟨t, r⟩, htake⟩ := Option.isSome_iff_exists.1 htake
      obtain ⟨ht, hr⟩ := Token.take?_eq_some_iff.1 htake
      rw [hs, ← List.cons_append, hr, List.append_assoc, Token.take?_source_append ht] at hc
      cases hc
    · exact hb hcb
  have hone := hbody [] _ rfl not_holdsToken_nil
  cases h with
  | nil => exact .plain (List.cons_ne_nil _ _) hone rfl .nil
  | marker ht hps => exact .plain (List.cons_ne_nil _ _) hone rfl (.marker ht hps)
  | @plain body ps _ hb hstart hps =>
    exact .plain (List.cons_ne_nil _ _) (hbody body _ rfl hb) hstart hps

theorem normal_ofText (s : Text) : Normal (ofText s) := by
  fun_induction ofText s with
  | case1 => exact .nil
  | case2 c s t rest h _ ih => exact .marker (Token.wellFormed_of_take? h) ih
  | case3 c s h ih =>
    apply normal_push ih
    rw [flatMap_source_ofText]
    exact h

/-! ## What is normal is cut back -/

theorem ofText_source_append {t : Token} (h : t.WellFormed) (rest : Text) :
    ofText (t.source ++ rest) = marker t :: ofText rest := by
  have htake := Token.take?_source_append h rest
  rw [t.source_eq] at htake ⊢
  rw [List.cons_append, ofText]
  split
  · rename_i hsome
    rw [List.cons_append] at htake
    rw [htake] at hsome
    cases hsome
    rfl
  · rename_i hnone
    rw [List.cons_append] at htake
    rw [htake] at hnone
    cases hnone

theorem ofText_cons_of_none {c : CodePoint} {s : Text} (h : Token.take? (c :: s) = none) :
    ofText (c :: s) = push c (ofText s) := by
  rw [ofText]
  split
  · rename_i hsome
    rw [h] at hsome
    cases hsome
  · rfl

theorem ofText_plain_append {body rest : Text} (hne : body ≠ []) (hb : ¬HoldsToken body)
    (hr : AtBorder rest) (hstart : startsPlain (ofText rest) = false) :
    ofText (body ++ rest) = plain body :: ofText rest := by
  induction body with
  | nil => exact absurd rfl hne
  | cons c body ih =>
    rw [holdsToken_cons, not_or, Option.not_isSome_iff_eq_none] at hb
    have hnone : Token.take? (c :: (body ++ rest)) = none :=
      Token.take?_append_eq_none (List.cons_ne_nil c body) hr hb.1
    rw [List.cons_append, ofText_cons_of_none hnone]
    cases body with
    | nil =>
      rw [List.nil_append]
      match hps : ofText rest with
      | [] | marker _ :: _ => rfl
      | plain _ :: _ => simp [hps, startsPlain] at hstart
    | cons d body => rw [ih (List.cons_ne_nil d body) hb.2, push]

theorem Normal.atBorder {ps : List Piece} (h : Normal ps) (hstart : startsPlain ps = false) :
    AtBorder (ps.flatMap source) := by
  cases h with
  | nil => exact atBorder_nil
  | marker _ _ => exact atBorder_source _ _
  | plain _ _ _ _ => cases hstart

theorem ofText_flatMap_source {ps : List Piece} (h : Normal ps) :
    ofText (ps.flatMap source) = ps := by
  induction h with
  | nil => rw [List.flatMap_nil, ofText]
  | marker ht _ ih => rw [List.flatMap_cons, source, ofText_source_append ht, ih]
  | plain hne hb hstart hps ih =>
    have hborder := hps.atBorder hstart
    rw [List.flatMap_cons, source, ofText_plain_append hne hb hborder (by rwa [ih]), ih]

theorem ofText_eq_iff {s : Text} {ps : List Piece} :
    ofText s = ps ↔ Normal ps ∧ ps.flatMap source = s := by
  constructor
  · rintro rfl
    exact ⟨normal_ofText s, flatMap_source_ofText s⟩
  · rintro ⟨h, rfl⟩
    exact ofText_flatMap_source h

/-! ## Cutting at a marker -/

theorem Normal.append_marker {ps qs : List Piece} {t : Token} (hps : Normal ps)
    (ht : t.WellFormed) (hqs : Normal qs) : Normal (ps ++ Piece.marker t :: qs) := by
  induction hps with
  | nil => exact .marker ht hqs
  | marker hu _ ih => exact .marker hu ih
  | @plain body ps hne hb hstart _ ih =>
    refine .plain hne hb ?_ ih
    cases ps with
    | nil => rfl
    | cons p ps =>
      cases p with
      | plain _ => cases hstart
      | marker _ => rfl

/-- What stands in front of a marker is cut as if it stood alone, and so is what follows it. -/
theorem ofText_append_source {t : Token} (ht : t.WellFormed) (s rest : Text) :
    ofText (s ++ t.source ++ rest) = ofText s ++ marker t :: ofText rest := by
  refine ofText_eq_iff.2 ⟨(normal_ofText s).append_marker ht (normal_ofText rest), ?_⟩
  simp [flatMap_source_ofText, source]

end Piece

end Stencil
