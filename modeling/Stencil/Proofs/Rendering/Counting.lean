import Stencil.Proofs.Rendering.Composition

/-!
# Counting directives

A text counts its references, and a block counts itself whatever becomes of its inside. So whether
a template is modified can be seen from the template alone.
-/

namespace Stencil

open Outcome

/-! ## References of a text -/

def Segment.isReference : Segment → Bool
  | plain _ => false
  | reference _ => true

theorem length_collect (offset : Nat) (segments : List Segment) :
    (references.collect offset segments).length = segments.countP Segment.isReference := by
  induction segments generalizing offset with
  | nil => rfl
  | cons segment segments ih =>
    cases segment with
    | plain body =>
      rw [references.collect, ih, List.countP_cons_of_neg (by simp [Segment.isReference])]
    | reference inner => rw [references.collect, List.length_cons, ih, List.countP_cons_of_pos rfl]

theorem length_references (s : Text) :
    (references s).length = (Segment.ofText false s).countP Segment.isReference :=
  length_collect 0 (Segment.ofText false s)

theorem references_eq_nil_iff {s : Text} :
    references s = [] ↔ ∀ segment ∈ Segment.ofText false s, segment.isReference = false := by
  rw [← List.length_eq_zero_iff, length_references, List.countP_eq_zero]
  simp

section Texts

variable {scope : Scope} {body : Text} {r : Rendering}

theorem Reference.render_cases {reference : Reference} (h : reference.render scope = .ok r) :
    r.directives = 0 ∧
      (r.warnings = [] ∨ r.warnings = [.pathNotFound reference.path] ∨
        ∃ name, reference.transform? = some name ∧
          (r.warnings = [.severalTransforms reference.path name] ∨
            r.warnings = [.unknownTransform name])) := by
  unfold Reference.render at h
  obtain ⟨v?, -, h⟩ := bind_eq_ok_iff.1 h
  split at h
  · cases h
    exact ⟨rfl, .inr (.inl rfl)⟩
  · next v =>
    split at h
    · obtain ⟨body, -, h⟩ := bind_eq_ok_iff.1 h
      cases h
      exact ⟨rfl, .inl rfl⟩
    · next name hname =>
      split at h
      · obtain ⟨body, -, h⟩ := bind_eq_ok_iff.1 h
        cases h
        exact ⟨rfl, .inr (.inr ⟨name, hname, .inl rfl⟩)⟩
      · split at h
        · obtain ⟨body, -, h⟩ := bind_eq_ok_iff.1 h
          cases h
          exact ⟨rfl, .inr (.inr ⟨name, hname, .inr rfl⟩)⟩
        · unfold Transform.rendered at h
          split at h
          · cases h
          · cases h
            exact ⟨rfl, .inl rfl⟩

theorem directives_reference {reference : Reference} (h : reference.render scope = .ok r) :
    r.directives = 0 := (Reference.render_cases h).1

theorem directives_segment {segment : Segment} (h : segment.render scope = .ok r) :
    r.directives = if segment.isReference then 1 else 0 := by
  cases segment with
  | plain body =>
    cases h
    rfl
  | reference inner =>
    obtain ⟨x, hx, h⟩ := bind_eq_ok_iff.1 h
    cases h
    exact congrArg (· + 1) (directives_reference hx)

theorem directives_segments {segments : List Segment} {parts : List Rendering}
    (h : segments.mapM (Segment.render scope) = .ok parts) :
    (parts.map (·.directives)).sum = segments.countP Segment.isReference := by
  have hall := mapM_eq_ok_iff.1 h
  clear h
  induction hall with
  | nil => rfl
  | @cons segment part segments parts hpart _ ih =>
    rw [List.map_cons, List.sum_cons, ih, directives_segment hpart, List.countP_cons, Nat.add_comm]

theorem directives_renderText (h : renderText scope body = .ok r) :
    r.directives = (references body).length := by
  obtain ⟨parts, hparts, h⟩ := bind_eq_ok_iff.1 h
  cases h
  rw [Rendering.directives_append, Rendering.concat_eq, directives_segments hparts,
    length_references, Nat.zero_add]

theorem renderText_of_references_eq_nil (h : references body = []) :
    renderText scope body = .ok ⟨body, 0, (includes body).map .includeUnsupported⟩ := by
  have hplain := references_eq_nil_iff.1 h
  have hparts : (Segment.ofText false body).mapM (Segment.render scope) =
      .ok ((Segment.ofText false body).map fun segment => .plain segment.source) := by
    rw [mapM_eq_ok_iff, List.forall₂_map_right_iff, List.forall₂_same]
    intro segment hsegment
    cases segment with
    | plain body => rfl
    | reference inner => cases hplain _ hsegment
  have hsource := Segment.flatMap_source_ofText false body
  unfold renderText
  rw [hparts]
  show Except.ok _ = Except.ok _
  rw [Rendering.concat_eq]
  simp [Rendering.ext_iff, Rendering.plain, List.flatMap_map, hsource, Function.comp_def]

end Texts

/-! ## Blocks of a template -/

theorem directives_block {tag : Tag} {inner closing : Text} {children : List Node} {scope : Scope}
    {r : Rendering} (h : (Node.block tag inner children closing).render scope = .ok r) :
    0 < r.directives := by
  obtain ⟨x, -, rfl⟩ := render_block_iff.1 h
  exact Nat.succ_pos x.directives

theorem directives_renderNodes {ns : List Node} {n : Node} {scope : Scope} {r : Rendering}
    (hn : n ∈ ns) (hblock : n.isBlock = true) (h : renderNodes ns scope = .ok r) :
    0 < r.directives := by
  obtain ⟨front, back, rfl⟩ := List.append_of_mem hn
  obtain ⟨x, y, -, hy, rfl⟩ := renderNodes_append_iff.1 h
  obtain ⟨z, w, hz, -, rfl⟩ := renderNodes_cons_iff.1 hy
  cases n with
  | plain body => cases hblock
  | block tag inner children closing =>
    have hpos := directives_block hz
    simp only [Rendering.directives_append]
    omega

theorem exists_block_of_holdsToken {s : Text} {ns : List Node} (h : Node.parse s = .ok ns)
    (hs : HoldsToken s) : ∃ n ∈ ns, n.isBlock = true := by
  obtain ⟨lead, t, rest, ht, rfl⟩ := hs
  rw [parse_eq_ok_iff, Piece.ofText_append_source ht] at h
  by_contra hplain
  -- Nodes that are no blocks have no markers among their pieces.
  have hpieces : ∀ ms : List Node, (∀ n ∈ ms, n.isBlock ≠ true) →
      Piece.marker t ∉ Node.forestPieces ms := by
    intro ms hms
    induction ms with
    | nil => simp [Node.forestPieces]
    | cons m ms ih =>
      have hrest := ih fun n hn => hms n (List.mem_cons_of_mem m hn)
      cases m with
      | plain body => simpa [Node.forestPieces, Node.pieces] using hrest
      | block tag inner children closing => exact absurd rfl (hms _ List.mem_cons_self)
  refine hpieces ns (fun n hn hb => hplain ⟨n, hn, hb⟩) ?_
  rw [← h]
  simp

/-! ## Templates -/

section Templates

variable {template : Text} {context : Fields} {r : Rendered}

theorem renderNodes_of_not_holdsToken {ns : List Node} (h : ¬HoldsToken template)
    (hparse : Node.parse template = .ok ns) (scope : Scope) :
    renderNodes ns scope = renderText scope template := by
  cases template with
  | nil =>
    cases parse_nil.symm.trans hparse
    have hnone : references [] = [] := by
      rw [references, Segment.ofText]
      rfl
    rw [renderText_of_references_eq_nil hnone]
    rfl
  | cons c s =>
    cases (parse_of_not_holdsToken (List.cons_ne_nil c s) h).symm.trans hparse
    simp only [renderNodes, Node.render]
    cases renderText scope (c :: s) with
    | error e => rfl
    | ok r => exact congrArg Except.ok (Rendering.append_empty r)

/-- Whether a template is modified shows in the template: in every context, this is whether a block
marker or a reference stands in it. -/
theorem modified_iff {ns : List Node} (hparse : Node.parse template = .ok ns)
    (hr : render template context = .ok r) :
    (r.modified = true ↔ HoldsToken template ∨ references template ≠ []) ∧
      (r.modified = true ↔ 0 < r.directives) ∧ (r.modified = false → r.content = template) := by
  unfold render at hr
  rw [hparse] at hr
  obtain ⟨x, hx, hr⟩ := bind_eq_ok_iff.1 hr
  cases hr
  have hcount : 0 < x.directives ↔ HoldsToken template ∨ references template ≠ [] := by
    by_cases hholds : HoldsToken template
    · obtain ⟨n, hn, hblock⟩ := exists_block_of_holdsToken hparse hholds
      exact iff_of_true (directives_renderNodes hn hblock hx) (.inl hholds)
    · rw [renderNodes_of_not_holdsToken hholds hparse] at hx
      rw [directives_renderText hx, List.length_pos_iff]
      simp [hholds]
  have hmodified : (Rendered.ofRendering template x).modified = true ↔ 0 < x.directives := by
    simp [Rendered.ofRendering, Nat.pos_iff_ne_zero]
  refine ⟨hmodified.trans hcount, hmodified, fun h => ?_⟩
  have hzero : x.directives = 0 := by simpa [Rendered.ofRendering] using h
  simp [Rendered.ofRendering, hzero]

end Templates

theorem modified_iff_unrolled :
    (render (text "\x7b\x7b#each names\x7d\x7d-\x7b\x7b/each\x7d\x7d") [] =
        .ok ⟨[], true, 1, [], []⟩) ∧
      (HoldsToken (text "\x7b\x7b#each names\x7d\x7d-\x7b\x7b/each\x7d\x7d") ∨
        references (text "\x7b\x7b#each names\x7d\x7d-\x7b\x7b/each\x7d\x7d") ≠ []) := by
  have hbody : Node.parse (text "-") = .ok [.plain (text "-")] :=
    parse_of_not_holdsToken (by decide) (by decide)
  have hparse := @parse_block_between [] (text "-") [] [] _ [] .each (text " names") [] parse_nil
    hbody parse_nil (isInner_space (by decide)) isInner_nil
  have hr := @render_of_parse _ _ [] ⟨[], 1, []⟩ hparse (by cbv)
  obtain ⟨hmodified, -, -⟩ := modified_iff hparse hr
  exact ⟨hr, hmodified.1 rfl⟩

end Stencil
