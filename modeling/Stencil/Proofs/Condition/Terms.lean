import Mathlib.Data.List.Infix
import Mathlib.Data.Option.Basic
import Stencil.Proofs.Condition.Spelling
import Stencil.Proofs.Text.Parts
import Stencil.Template.Token

/-!
# Reading spelled terms

Each form of a term is read as what it says. The forms are tried in a fixed order, so for each of
them the earlier ones are shown to find nothing in it.
-/

namespace Stencil

open Text

/-! ## What stands at the front -/

theorem Gap.exists_cons {w : Text} (h : Gap w) : ∃ c v, w = c :: v ∧ isBlank c ∧ Blanks v := by
  obtain ⟨c, v, rfl⟩ := List.exists_cons_of_ne_nil h.1
  exact ⟨c, v, rfl, List.forall_mem_cons.1 h.2⟩

/-! ## Literals -/

theorem Literal.Spelled.no_newline {l : Literal} {s : Text} (h : l.Spelled s) : chr '\n' ∉ s := by
  cases h with
  | @quoted q s hq _ hline =>
    have hne : '\n' ≠ q := by
      rintro rfl
      cases hq
    simp [hne, hline]
  | bare _ hs _ =>
    intro hm
    have hblank := (hs '\n' hm).1
    cases hblank

theorem Literal.Spelled.read {l : Literal} {s w w' : Text} (h : l.Spelled s) (hw : Blanks w)
    (hw' : Blanks w') : Literal.read (w ++ s ++ w') = .ok l := by
  unfold Literal.read
  rw [h.tight.trim_pad hw hw']
  cases h with
  | @quoted q s hq _ _ => simp [hq]
  | @bare s hne hs _ =>
    obtain ⟨c, s, rfl⟩ := List.exists_cons_of_ne_nil hne
    have hquote : isQuote c = false := (hs c (by simp)).2
    have hblank : (c :: s).any isBlank = false := by
      rw [List.any_eq_false]
      intro d hd
      simp [(hs d hd).1]
    simp [hquote, hblank]

theorem Literal.Spelled.read_self {l : Literal} {s : Text} (h : l.Spelled s) :
    Literal.read s = .ok l := by
  have hnone : Blanks [] := by simp [Blanks]
  simpa using h.read hnone hnone

theorem checkPath_eq {p : Text} (h : isPath p) : checkPath p = .ok p := if_pos h

/-! ## Membership with the word in front -/

theorem takeHas?_eq_none {s : Text} (h : s.takeWhile (!isBlank ·) ≠ text "has") :
    takeHas? s = none := by
  unfold takeHas?
  cases hafter : after? (text "has") s with
  | none => rfl
  | some rest =>
    have hword : rest.head?.any isBlank = false := by
      by_contra hblank
      apply h
      rw [eq_append_of_after? hafter]
      apply takeWhile_stop (List.all_eq_true.1 (by decide))
      cases rest <;> simp_all
    simp [hword]

theorem takeHas?_eq_some {p s w w' : Text} {l : Literal} (hp : isPath p) (hw : Gap w)
    (hw' : Gap w') (hl : l.Spelled s) :
    takeHas? (text "has" ++ w ++ p ++ w' ++ s) = some (p, s) := by
  have hafter : after? (text "has") (text "has" ++ w ++ p ++ w' ++ s) =
      some (w ++ (p ++ (w' ++ s))) := by
    simpa using Text.after?_append (text "has") (w ++ (p ++ (w' ++ s)))
  have hhead : (w ++ (p ++ (w' ++ s))).head?.any isBlank := by
    obtain ⟨c, v, rfl, hc, -⟩ := hw.exists_cons
    exact hc
  have hword : ∀ c ∈ p, (!isBlank c) = true := fun c hc => by simp [IsPath.isBlank hp c hc]
  have hgap : (w' ++ s).head?.all fun c => !!isBlank c := by
    obtain ⟨c, v, rfl, hc, -⟩ := hw'.exists_cons
    simpa using hc
  have hvalue : trimStart (w' ++ s) = s := by
    simpa using hl.tight.trimStart_append hw'.2 []
  have hpath := (IsPath.tight hp).ne_nil
  have hne := hl.tight.ne_nil
  have hline := hl.no_newline
  unfold takeHas?
  simp only [hafter, hhead, Option.bind_eq_bind, Option.bind_some, guard_true,
    (IsPath.tight hp).trimStart_append hw.2, takeWhile_stop hword hgap, dropWhile_stop hword hgap,
    hvalue]
  simp [hpath, hne, hline]

/-! ## Membership with parentheses -/

section Includes

variable {p rest inner : Text}

/-- The call that stands behind a text without parentheses reaches into what follows that text. -/
theorem exists_of_includes {tail : Text} (hp : chr '(' ∉ p)
    (h : after? (text ".includes(") (p ++ tail) = some rest) :
    ∃ c a, text ".includes(" = p ++ c :: a ∧ tail = c :: (a ++ rest) := by
  have heq := eq_append_of_after? h
  have hparen : chr '(' ∈ text ".includes(" := by decide
  rcases List.append_eq_append_iff.1 heq with ⟨a, hlead, htail⟩ | ⟨a, hlead, -⟩
  · cases a with
    | nil =>
      rw [List.append_nil] at hlead
      exact absurd (hlead ▸ hparen) hp
    | cons c a => exact ⟨c, a, hlead, htail⟩
  · rw [hlead] at hp
    exact absurd (List.mem_append_left a hparen) hp

theorem after?_includes_blank {b : CodePoint} (hp : chr '(' ∉ p) (hb : isBlank b) :
    after? (text ".includes(") (p ++ b :: rest) = none := by
  cases hafter : after? (text ".includes(") (p ++ b :: rest) with
  | none => rfl
  | some r =>
    obtain ⟨c, a, hlead, htail⟩ := exists_of_includes hp hafter
    have hplain : (text ".includes(").all (!isBlank ·) = true := by decide
    have hc : (!isBlank c) = true := List.all_eq_true.1 hplain c (by simp [hlead])
    rw [List.cons.injEq] at htail
    rw [← htail.1, hb] at hc
    cases hc

theorem after?_includes_again {c : CodePoint} (hp : chr '(' ∉ c :: p) :
    after? (text ".includes(") (c :: p ++ (text ".includes(" ++ inner)) = none := by
  cases hafter : after? (text ".includes(") (c :: p ++ (text ".includes(" ++ inner)) with
  | none => rfl
  | some r =>
    -- The dot of the second call would stand inside the first one.
    obtain ⟨d, a, hlead, htail⟩ := exists_of_includes hp hafter
    have hdot : chr '.' ∉ text "includes(" := by decide
    have hd : '.' = d := (List.cons.inj htail).1
    have hinside : text "includes(" = p ++ d :: a := (List.cons.inj hlead).2
    rw [hinside, hd] at hdot
    simp at hdot

theorem cutIncludes?_eq_none {b : CodePoint} (hp : chr '(' ∉ p)
    (hblank : ∀ c ∈ p, isBlank c = false) (hb : isBlank b) (done : Text) :
    cutIncludes? done (p ++ b :: rest) = none := by
  induction p generalizing done with
  | nil =>
    have hafter := @after?_includes_blank _ rest _ hp hb
    rw [List.nil_append] at hafter ⊢
    simp [cutIncludes?, hafter, hb]
  | cons c p ih =>
    have hafter := @after?_includes_blank _ rest _ hp hb
    obtain ⟨hc, hrest⟩ := List.forall_mem_cons.1 hblank
    rw [List.cons_append] at hafter ⊢
    simp only [cutIncludes?, hafter, Option.filter_none, hc]
    exact ih (fun hm => hp (List.mem_cons_of_mem c hm)) hrest _

theorem cutIncludes?_eq_some (hp : chr '(' ∉ p) (hblank : ∀ c ∈ p, isBlank c = false)
    (hinner : isArgument inner) {done : Text} (hne : done ++ p ≠ []) :
    cutIncludes? done (p ++ (text ".includes(" ++ inner)) = some (done ++ p, inner) := by
  induction p generalizing done with
  | nil =>
    have hafter := Text.after?_append (text ".includes(") inner
    have hcall : text ".includes(" ++ inner = chr '.' :: (text "includes(" ++ inner) := rfl
    rw [List.append_nil] at hne ⊢
    rw [hcall] at hafter
    rw [List.nil_append, hcall]
    simp [cutIncludes?, hafter, Option.filter, hinner, hne]
  | cons c p ih =>
    have hafter := @after?_includes_again _ inner _ hp
    obtain ⟨hc, hrest⟩ := List.forall_mem_cons.1 hblank
    have hlater := @ih (fun hm => hp (List.mem_cons_of_mem c hm)) hrest (done ++ [c]) (by simp)
    rw [List.cons_append] at hafter ⊢
    simp only [cutIncludes?, hafter, Option.filter_none, hc]
    simpa using hlater

end Includes

theorem takeIncludes?_inclusion {p s w w' : Text} {l : Literal} (hp : isPath p) (hw : Blanks w)
    (hw' : Blanks w') (hl : l.Spelled s) :
    takeIncludes? (inclusion p w s w') = some (p, w ++ s ++ w') := by
  have htrim := hl.tight.trim_pad hw hw'
  have hinner : isArgument (w ++ s ++ w') := by
    have hne := hl.tight.ne_nil
    have hline := hl.no_newline
    rw [isArgument, htrim]
    simp [hne, hline]
  have hparen : chr '(' ∉ p := IsPath.not_mem hp (by decide)
  have hcut := @cutIncludes?_eq_some p _ hparen (IsPath.isBlank hp) hinner []
    (IsPath.tight hp).ne_nil
  unfold takeIncludes? inclusion
  simpa using hcut

/-! ## Comparisons -/

theorem Comparison.symbol_eq (op : Comparison) :
    op.symbol = match op with
      | equal => ['=', '=']
      | unequal => ['!', '=']
      | greater => ['>']
      | greaterOrEqual => ['>', '=']
      | less => ['<']
      | lessOrEqual => ['<', '='] := by
  cases op <;> rfl

theorem takeComparison?_append (op : Comparison) {w : Text} (hw : Gap w) (rest : Text) :
    takeComparison? (op.symbol ++ (w ++ rest)) = some (op, w ++ rest) := by
  obtain ⟨c, v, rfl, hc, -⟩ := hw.exists_cons
  have hne : '=' ≠ c := by
    rintro rfl
    cases hc
  cases op <;> simp [takeComparison?, Comparison.symbol_eq, after?, hne]

theorem isPathPart_of_isPath {p : Text} (hp : isPath p) :
    ∀ c ∈ p, (!isBlank c && !isComparisonChar c) = true := by
  intro c hc
  have hblank := IsPath.isBlank hp c hc
  have hne : ∀ d ∈ marks, (c == d) = false := fun _ => IsPath.beq_mark hp hc
  rw [hblank, isComparisonChar, hne '=' (by decide), hne '!' (by decide), hne '<' (by decide),
    hne '>' (by decide)]
  rfl

theorem takeCompared?_path {p : Text} (hp : isPath p) : takeCompared? p = none := by
  have hdrop : p.dropWhile (fun c => !isBlank c && !isComparisonChar c) = [] :=
    List.dropWhile_eq_nil_iff.2 (isPathPart_of_isPath hp)
  have hnone : takeComparison? (trimStart []) = none := rfl
  unfold takeCompared?
  simp only [hdrop, hnone]
  simp

theorem takeCompared?_eq_some {p w w' s : Text} (op : Comparison) {l : Literal} (hp : isPath p)
    (hw : Gap w) (hw' : Gap w') (hl : l.Spelled s) :
    takeCompared? (p ++ w ++ op.symbol ++ w' ++ s) = some (p, op, s) := by
  have hpart := isPathPart_of_isPath hp
  have hstop : (w ++ (op.symbol ++ (w' ++ s))).head?.all
      fun c => !(!isBlank c && !isComparisonChar c) := by
    obtain ⟨c, v, rfl, hc, -⟩ := hw.exists_cons
    simp [hc]
  have hop : trimStart (w ++ (op.symbol ++ (w' ++ s))) = op.symbol ++ (w' ++ s) := by
    have htight : Tight op.symbol := by cases op <;> decide
    exact htight.trimStart_append hw.2 _
  have hvalue : trimStart (w' ++ s) = s := by
    simpa using hl.tight.trimStart_append hw'.2 []
  have hne := (IsPath.tight hp).ne_nil
  have hline := hl.no_newline
  unfold takeCompared?
  simp only [List.append_assoc, takeWhile_stop hpart hstop, dropWhile_stop hpart hstop, hop,
    takeComparison?_append op hw']
  simp [hne, hline, hvalue]

theorem hasComparison_path {p : Text} (hp : isPath p) : hasComparison p = false := by
  have hout : ∀ {part : Text} (d : CodePoint), d ∈ part → d ∈ marks → has part p = false := by
    intro part d hd hmark
    by_contra hhas
    rw [Bool.not_eq_false] at hhas
    exact IsPath.not_mem hp hmark ((has_iff.1 hhas).subset hd)
  have hless : chr '<' ∉ p := IsPath.not_mem hp (by decide)
  have hgreater : chr '>' ∉ p := IsPath.not_mem hp (by decide)
  rw [hasComparison, hout '=' (by decide) (by decide), hout '=' (by decide) (by decide)]
  simp [hless, hgreater]

/-! ## Reading -/

theorem readPlain_path {p : Text} (hp : isPath p) (negated : Bool) :
    Term.readPlain negated p = .ok (.truth p negated) := by
  have hincludes : takeIncludes? p = none := by
    have hparen : p.getLast? ≠ some (chr ')') := fun h =>
      IsPath.not_mem hp (by decide) (List.mem_of_getLast? h)
    rw [takeIncludes?, if_neg (by simpa using hparen)]
  rw [Term.readPlain, hincludes, takeCompared?_path hp, hasComparison_path hp, checkPath_eq hp]
  rfl

theorem readPlain_compared {p w w' s : Text} (op : Comparison) {l : Literal} (hp : isPath p)
    (hw : Gap w) (hw' : Gap w') (hl : l.Spelled s) :
    Term.readPlain false (p ++ w ++ op.symbol ++ w' ++ s) = .ok (.compare p op l) := by
  have hincludes : takeIncludes? (p ++ w ++ op.symbol ++ w' ++ s) = none := by
    -- The scan for a call ends at the gap, before the literal is reached.
    have hparen : chr '(' ∉ p := IsPath.not_mem hp (by decide)
    obtain ⟨c, v, rfl, hc, -⟩ := hw.exists_cons
    have hdrop : (p ++ (c :: v) ++ op.symbol ++ w' ++ s).dropLast =
        p ++ c :: (v ++ op.symbol ++ w' ++ s).dropLast := by
      have hinner : v ++ op.symbol ++ w' ++ s ≠ [] := by simp [hl.tight.ne_nil]
      simp only [List.append_assoc, List.cons_append] at hinner ⊢
      rw [List.dropLast_append_of_ne_nil (List.cons_ne_nil _ _),
        List.dropLast_cons_of_ne_nil hinner]
    rw [takeIncludes?, hdrop, cutIncludes?_eq_none hparen (IsPath.isBlank hp) hc, ite_self]
  have hread : Literal.read s = .ok l := hl.read_self
  rw [Term.readPlain, hincludes, takeCompared?_eq_some op hp hw hw' hl]
  simp only [hread, checkPath_eq hp]
  rfl

theorem readPlain_inclusion {p w w' s : Text} {l : Literal} (hp : isPath p) (hw : Blanks w)
    (hw' : Blanks w') (hl : l.Spelled s) (negated : Bool) :
    Term.readPlain negated (inclusion p w s w') = .ok (.member p l negated) := by
  rw [Term.readPlain, takeIncludes?_inclusion hp hw hw' hl]
  simp only [hl.read hw hw', checkPath_eq hp]
  rfl

theorem Term.read_negation {p s v : Text} (hp : isPath p) (hstart : p <+: s) (hs : Tight s)
    (hhas : takeHas? s = none) (hv : Blanks v) (negated : Bool) :
    Term.read (negation negated v s) = readPlain negated s := by
  obtain ⟨c, p', rfl, hc⟩ := IsPath.exists_cons hp
  obtain ⟨rest, rfl⟩ := hstart
  cases negated with
  | false =>
    have hmark : c ≠ '!' := by
      rintro rfl
      cases hc
    rw [negation, if_neg Bool.false_ne_true, Term.read, hs.trim_eq, hhas]
    simp [hmark]
  | true =>
    have htight : Tight ('!' :: (v ++ (c :: p' ++ rest))) := tight_negation hs true
    have hword : takeHas? ('!' :: (v ++ (c :: p' ++ rest))) = none := rfl
    have hinner : trim (v ++ (c :: p' ++ rest)) = c :: p' ++ rest := by
      rw [trim_append_left hv, hs.trim_eq]
    have hequal : (v ++ (c :: p' ++ rest)).head? ≠ some (chr '=') := by
      cases v with
      | nil =>
        rintro ⟨⟩
        cases hc
      | cons d v =>
        rintro ⟨⟩
        exact absurd (hv '=' List.mem_cons_self) (by decide)
    have hfull : (c :: p' ++ rest).isEmpty = false := rfl
    rw [negation, if_pos rfl, Term.read, htight.trim_eq, hword]
    simp only [List.isEmpty_cons, Bool.false_eq_true, if_false, beq_iff_eq, hequal, hinner, hfull]

theorem takeHas?_path {p rest : Text} (hp : isPath p) (hrest : rest.head?.all isBlank)
    (hne : p ≠ text "has") : takeHas? (p ++ rest) = none := by
  have hword : (p ++ rest).takeWhile (!isBlank ·) = p := by
    apply takeWhile_stop fun c hc => by simp [IsPath.isBlank hp c hc]
    cases rest <;> simp_all
  exact takeHas?_eq_none (by rwa [hword])

theorem takeHas?_inclusion {p s w w' : Text} (hp : isPath p) :
    takeHas? (inclusion p w s w') = none := by
  apply takeHas?_eq_none
  -- The parenthesis of the call belongs to the first word.
  have hplain : ∀ c ∈ p ++ text ".includes(", (!isBlank c) = true := by
    intro c hc
    obtain hc | hc := List.mem_append.1 hc
    · simp [IsPath.isBlank hp c hc]
    · have hcall : (text ".includes(").all (!isBlank ·) = true := by decide
      exact List.all_eq_true.1 hcall c hc
  have hcall : chr '(' ∈ text ".includes(" := by decide
  have hout : chr '(' ∉ text "has" := by decide
  rw [inclusion, List.append_assoc, List.takeWhile_append_of_pos hplain]
  intro hword
  rw [← hword] at hout
  exact hout (List.mem_append_left _ (List.mem_append_right _ hcall))

theorem Term.Spelled.read {t : Term} {s : Text} (h : t.Spelled s) : Term.read s = .ok t := by
  have htight := h.tight
  cases h with
  | @truth p w negated hp hw =>
    have hhas : takeHas? p = none := by
      by_cases hword : p = text "has"
      · subst hword
        rfl
      · simpa using @takeHas?_path p [] hp rfl hword
    rw [Term.read_negation hp (List.prefix_refl p) (IsPath.tight hp) hhas hw, readPlain_path hp]
  | @compare p w w' s op l hp hword hw hw' hl =>
    have hgap : (w ++ (op.symbol ++ (w' ++ s))).head?.all isBlank := by
      obtain ⟨c, v, rfl, hc, -⟩ := hw.exists_cons
      exact hc
    have hhas := takeHas?_path hp hgap hword
    have hstart : p <+: p ++ w ++ op.symbol ++ w' ++ s := by simp
    simp only [← List.append_assoc] at hhas
    have hnone : Blanks [] := by simp [Blanks]
    have hread := Term.read_negation hp hstart htight hhas hnone false
    rw [negation, if_neg Bool.false_ne_true] at hread
    rw [hread, readPlain_compared op hp hw hw' hl]
  | @has p w w' s l hp hw hw' hl =>
    rw [Term.read, htight.trim_eq, takeHas?_eq_some hp hw hw' hl]
    simp only [hl.read_self, checkPath_eq hp]
    rw [if_neg (by simp)]
    rfl
  | @includes p v w w' s l negated hp hv hw hw' hl =>
    have hstart : p <+: inclusion p w s w' := by simp [inclusion]
    rw [Term.read_negation hp hstart (tight_inclusion hp) (takeHas?_inclusion hp) hv,
      readPlain_inclusion hp hw hw' hl]

end Stencil
