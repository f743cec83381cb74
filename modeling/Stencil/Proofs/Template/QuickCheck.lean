import Stencil.Proofs.Condition.Spelling
import Stencil.Proofs.Rendering.Counting
import Stencil.Proofs.Template.References
import Stencil.Proofs.Text.Parts

/-!
# The quick check

Before a file is read as a template, a quick check looks for two opening braces in front of a name.
It misses no block marker. Of references and includes it misses those whose name begins with a
character that it takes for no start of a name; where none of these stands, a text that fails the
check has nothing to render.
-/

namespace Stencil

/-! ## Block markers -/

theorem hasMarker_append {lead s : Text} (h : hasMarker s = true) :
    hasMarker (lead ++ s) = true := by
  induction lead with
  | nil => exact h
  | cons c lead ih => rw [List.cons_append, hasMarker, ih, Bool.or_true]

theorem hasMarker_of_startsMarker {s : Text} (h : startsMarker s = true) : hasMarker s = true := by
  cases s with
  | nil => cases h
  | cons c s => rw [hasMarker, h, Bool.true_or]

theorem hasMarker_of_suffix {s t : Text} (h : startsMarker t = true) (ht : t <:+ s) :
    hasMarker s = true := by
  obtain ⟨lead, rfl⟩ := ht
  exact hasMarker_append (hasMarker_of_startsMarker h)

theorem startsMarker_source_append (t : Token) (rest : Text) :
    startsMarker (t.source ++ rest) = true := by
  have hname : ∀ tag : Tag, ∃ c name, tag.name = c :: name ∧ isNameStart c = true ∧
      Text.isBlank c = false := by
    intro tag
    cases tag <;> exact ⟨_, _, rfl, by decide +kernel, by decide⟩
  obtain ⟨c, name, hc, hstart, hblank⟩ := hname t.tag
  have hsigil : Reference.isSigil t.sigil = true := by cases t <;> rfl
  rw [Token.source_eq, hc]
  simp [startsMarker, hsigil, Text.trimStart, hblank, hstart]

theorem hasMarker_of_holdsToken {s : Text} (h : HoldsToken s) : hasMarker s = true := by
  obtain ⟨lead, t, rest, -, rfl⟩ := h
  rw [List.append_assoc]
  exact hasMarker_of_suffix (startsMarker_source_append t rest) (List.suffix_append lead _)

theorem templateErrors_eq_nil {s : Text} (h : ¬HoldsToken s) : templateErrors s = [] := by
  obtain ⟨ns, hns, -⟩ := exists_parse_of_not_holdsToken h
  unfold templateErrors
  rw [hns]

theorem hasMarker_of_templateErrors {s : Text} (h : templateErrors s ≠ []) :
    hasMarker s = true := by
  by_contra hm
  exact h (templateErrors_eq_nil fun hholds => hm (hasMarker_of_holdsToken hholds))

/-! ## References and includes -/

theorem Text.head?_trimStart_append {s : Text} {c : CodePoint} (h : (trimStart s).head? = some c)
    (t : Text) : (trimStart (s ++ t)).head? = some c := by
  unfold trimStart at h ⊢
  rw [List.dropWhile_append]
  split
  · next hempty =>
    rw [List.isEmpty_iff.1 hempty] at h
    cases h
  · rw [List.head?_append, h]
    rfl

theorem isBlank_of_isNameStart {c : CodePoint} (h : isNameStart c = true) :
    Text.isBlank c = false := by
  by_contra hblank
  have hpath := isPathChar_of_isBlank (by simpa using hblank)
  unfold isNameStart at h
  unfold isPathChar at hpath
  simp_all

theorem isSigil_iff {c : CodePoint} : Reference.isSigil c = true ↔ c = '#' ∨ c = '/' ∨ c = '>' := by
  simp only [Reference.isSigil, Bool.or_eq_true, beq_iff_eq, or_assoc]

theorem isBlank_of_isSigil {c : CodePoint} (h : Reference.isSigil c = true) :
    Text.isBlank c = false := by
  obtain rfl | rfl | rfl := isSigil_iff.1 h <;> rfl

theorem isSigil_of_isNameStart {c : CodePoint} (h : isNameStart c = true) :
    Reference.isSigil c = false := by
  by_contra hsigil
  have hnone : isNameStart '#' = false ∧ isNameStart '/' = false ∧ isNameStart '>' = false := by
    decide +kernel
  obtain rfl | rfl | rfl := isSigil_iff.1 (by simpa using hsigil) <;> simp_all

/-- Behind two braces, the first character that is not blank decides. -/
theorem startsMarker_braces {s : Text} {c : CodePoint} (hc : (Text.trimStart s).head? = some c)
    (hstart : isNameStart c = true) : startsMarker ('{' :: '{' :: s) = true := by
  have hsigil : s.head?.any Reference.isSigil = false := by
    cases s with
    | nil => rfl
    | cons d s =>
      by_contra hd
      have hd : Reference.isSigil d = true := by simpa using hd
      -- A sigil is not blank, so it would be the first character itself.
      obtain rfl : d = c := by simpa [Text.trimStart, isBlank_of_isSigil hd] using hc
      rw [isSigil_of_isNameStart hstart] at hd
      cases hd
  simp [startsMarker, hsigil, hc, hstart]

theorem head?_trimStart_of_includeName? {inner name : Text} {c : CodePoint}
    (h : includeName? inner = some name) (hc : name.head? = some c)
    (hblank : Text.isBlank c = false) : (Text.trimStart inner).head? = some c := by
  unfold includeName? at h
  split at h
  · next hempty =>
    -- All of it is blank, and so is the last character, which is the name.
    obtain ⟨d, hd, rfl⟩ := Option.map_eq_some_iff.1 h
    obtain rfl : d = c := by simpa using hc
    have hall := Text.trim_eq_nil_iff.1 (List.isEmpty_iff.1 hempty)
    rw [hall d (List.mem_of_getLast? hd)] at hblank
    cases hblank
  · cases h
    obtain ⟨back, hback⟩ := Text.isPrefix_trimEnd (Text.trimStart inner)
    rw [← hback, List.head?_append, ← Text.trim, hc]
    rfl

theorem startsMarker_of_take? {s inner rest : Text} (h : Reference.take? s = some (inner, rest))
    (hname : (Text.trimStart inner).head?.any isNameStart = true) : startsMarker s = true := by
  obtain ⟨c, hc, hstart⟩ := (Option.any_eq_true _ _).1 hname
  rw [Reference.eq_append_of_take? h, List.append_assoc, List.append_assoc]
  exact startsMarker_braces (Text.head?_trimStart_append hc _) hstart

theorem startsMarker_of_takeInclude? {s name : Text} (h : takeInclude? s = some name)
    (hname : name.head?.any isNameStart = true) : startsMarker s = true := by
  unfold takeInclude? at h
  split at h
  · next s =>
    obtain ⟨⟨inner, rest⟩, hclosed, h⟩ := Option.bind_eq_some_iff.1 h
    obtain ⟨c, hc, hstart⟩ := (Option.any_eq_true _ _).1 hname
    have hinner := head?_trimStart_of_includeName? h hc (isBlank_of_isNameStart hstart)
    rw [eq_append_of_takeClosed? hclosed, List.append_assoc]
    have hs := Text.head?_trimStart_append hinner (closeBraces ++ rest)
    simp [startsMarker, Reference.isSigil, hs, hstart]
  · cases h

theorem exists_takeInclude?_of_mem_includes {s name : Text} (h : name ∈ includes s) :
    ∃ t, t <:+ s ∧ takeInclude? t = some name := by
  induction s with
  | nil => cases h
  | cons c s ih =>
    rw [includes, List.mem_append, Option.mem_toList] at h
    obtain h | h := h
    · exact ⟨c :: s, List.suffix_refl _, h⟩
    · obtain ⟨t, ht, hfound⟩ := ih h
      exact ⟨t, ht.trans (List.suffix_cons c s), hfound⟩

/-! ## Texts that fail the check -/

/-- Whether every reference and every include of a text begins as the quick check expects names
to begin. -/
def NamesAreUsual (s : Text) : Prop :=
  (∀ reference ∈ references s, (Text.trimStart reference.2).head?.any isNameStart) ∧
    ∀ name ∈ includes s, name.head?.any isNameStart

theorem references_eq_nil {s : Text} (h : hasMarker s = false) (hs : NamesAreUsual s) :
    references s = [] := by
  rw [List.eq_nil_iff_forall_not_mem]
  rintro ⟨offset, inner⟩ hmem
  obtain ⟨rest, hfound⟩ := exists_take?_of_mem_references hmem
  have hmarker :=
    hasMarker_of_suffix (startsMarker_of_take? hfound (hs.1 _ hmem)) (List.drop_suffix offset s)
  rw [h] at hmarker
  cases hmarker

theorem includes_eq_nil {s : Text} (h : hasMarker s = false) (hs : NamesAreUsual s) :
    includes s = [] := by
  rw [List.eq_nil_iff_forall_not_mem]
  intro name hmem
  obtain ⟨t, ht, hfound⟩ := exists_takeInclude?_of_mem_includes hmem
  have hmarker := hasMarker_of_suffix (startsMarker_of_takeInclude? hfound (hs.2 _ hmem)) ht
  rw [h] at hmarker
  cases hmarker

/-- Where the quick check finds nothing, no block is read; and if no name begins unusually, nothing
is found at all, and rendering leaves the text as it is. -/
theorem nothing_to_render {s : Text} (h : hasMarker s = false) :
    (∃ ns, Node.parse s = .ok ns ∧ ∀ n ∈ ns, n.isBlock = false) ∧
      (NamesAreUsual s → references s = [] ∧ includes s = [] ∧
        ∀ context, render s context = .ok ⟨s, false, 0, [], []⟩) := by
  have hholds : ¬HoldsToken s := by
    intro hs
    rw [hasMarker_of_holdsToken hs] at h
    cases h
  refine ⟨exists_parse_of_not_holdsToken hholds, fun hs => ?_⟩
  have hreferences := references_eq_nil h hs
  have hincludes := includes_eq_nil h hs
  refine ⟨hreferences, hincludes, fun context => ?_⟩
  obtain ⟨ns, hparse, -⟩ := exists_parse_of_not_holdsToken hholds
  have hrun : renderNodes ns (.base context) = .ok ⟨s, 0, []⟩ := by
    rw [renderNodes_of_not_holdsToken hholds hparse, renderText_of_references_eq_nil hreferences,
      hincludes, List.map_nil]
  rw [render_of_parse hparse hrun]
  rfl

theorem nothing_to_render_blank :
    hasMarker (text "\x7b\x7b \x7d\x7d") = false ∧
      NamesAreUsual (text "\x7b\x7b \x7d\x7d") ∧ ∀ context,
        render (text "\x7b\x7b \x7d\x7d") context =
          .ok ⟨text "\x7b\x7b \x7d\x7d", false, 0, [], []⟩ := by
  have h : hasMarker (text "\x7b\x7b \x7d\x7d") = false := by decide +kernel
  have hreferences : references (text "\x7b\x7b \x7d\x7d") = [] := by cbv
  have hincludes : includes (text "\x7b\x7b \x7d\x7d") = [] := by decide +kernel
  have hs : NamesAreUsual (text "\x7b\x7b \x7d\x7d") := by
    rw [NamesAreUsual, hreferences, hincludes]
    exact ⟨List.forall_mem_nil _, List.forall_mem_nil _⟩
  exact ⟨h, hs, ((nothing_to_render h).2 hs).2.2⟩

/-- A dash is no start of a name for the quick check, but it is one for references. -/
theorem hasMarker_dash :
    hasMarker (text "\x7b\x7b-\x7d\x7d") = false ∧
      references (text "\x7b\x7b-\x7d\x7d") = [(0, text "-")] ∧
      render (text "\x7b\x7b-\x7d\x7d") [] = .ok ⟨[], true, 1, [.pathNotFound (text "-")], []⟩ := by
  refine ⟨by decide +kernel, by cbv, by cbv⟩

end Stencil
