import Stencil.Proofs.Template.Tiling

/-!
# Bodies on their own

What stands inside a block is cut and read as if nothing stood around it: reading the body alone
gives the nodes inside the block, at every depth, and only their places are counted from the start
of the body instead of the start of the template.
-/

namespace Stencil

/-! ## Parts of pieces -/

namespace Piece.Normal

theorem left {ps qs : List Piece} (h : Normal (ps ++ qs)) : Normal ps := by
  induction ps with
  | nil => exact .nil
  | cons p ps ih =>
    cases h with
    | marker ht hrest => exact .marker ht (ih hrest)
    | plain hne hb hstart hrest =>
      refine .plain hne hb ?_ (ih hrest)
      cases ps with
      | nil => rfl
      | cons q ps => cases q <;> exact hstart

theorem right {ps qs : List Piece} (h : Normal (ps ++ qs)) : Normal qs := by
  induction ps with
  | nil => exact h
  | cons p ps ih =>
    cases h with
    | marker _ hrest => exact ih hrest
    | plain _ _ _ hrest => exact ih hrest

end Piece.Normal

namespace Node

variable {content lead rest : Text} {ns : List Node}

/-! ## Outlines further down -/

namespace Outline

mutual

/-- The outline as many characters and lines further down. -/
def shift (offset lines : Nat) : Outline → Outline
  | plain start stop line body => plain (start + offset) (stop + offset) (line + lines) body
  | block tag start stop line argument body children =>
    block tag (start + offset) (stop + offset) (line + lines) argument body
      (shiftAll offset lines children)

def shiftAll (offset lines : Nat) : List Outline → List Outline
  | [] => []
  | o :: os => shift offset lines o :: shiftAll offset lines os

end

/-- Whether an outline is one of some outlines, or inside one of them at any depth. -/
inductive Occurs (o : Outline) : List Outline → Prop
  | here {os} : o ∈ os → Occurs o os
  | inside {os tag start stop line argument body children} :
    block tag start stop line argument body children ∈ os → Occurs o children → Occurs o os

end Outline

mutual

theorem outline_add (offset lines start line : Nat) : (n : Node) →
    outline (start + offset) (line + lines) n = (outline start line n).shift offset lines
  | plain body => by
    simp only [outline, Outline.shift, Nat.add_right_comm]
  | block tag inner children closing => by
    have hchildren := outlines_add offset lines
      (start + (Token.opening tag inner).source.length)
      (line + (Token.opening tag inner).source.count (chr '\n')) children
    simp only [outline, Outline.shift, Nat.add_right_comm _ offset, Nat.add_right_comm _ lines,
      hchildren]

theorem outlines_add (offset lines start line : Nat) : (ns : List Node) →
    outlines (start + offset) (line + lines) ns =
      Outline.shiftAll offset lines (outlines start line ns)
  | [] => rfl
  | n :: ns => by
    have hrest := outlines_add offset lines (start + n.source.length)
      (line + n.source.count (chr '\n')) ns
    simp only [outlines, Outline.shiftAll, outline_add offset lines start line n,
      Nat.add_right_comm _ offset, Nat.add_right_comm _ lines, hrest]

end

/-! ## Where nodes stand -/

/-- Nodes that a template holds between two texts, with their outlines. -/
structure Stand (content lead rest : Text) (ns : List Node) (os : List Outline) : Prop where
  whole : content = lead ++ sources ns ++ rest
  normal : Piece.Normal (forestPieces ns)
  outlined : os = outlines lead.length (content.lineOf lead.length) ns

namespace Stand

variable {n : Node} {back : List Node} {o : Outline} {os : List Outline} {tag : Tag}
  {inner closing : Text}

theorem head (h : Stand content lead rest (n :: back) (o :: os)) :
    Stand content lead (sources back ++ rest) [n] [o] := by
  obtain ⟨hwhole, hnormal, houtlined⟩ := h
  refine ⟨?_, ?_, ?_⟩
  · simp [hwhole, sources]
  · rw [forestPieces_singleton]
    exact hnormal.left
  · rw [outlines, List.cons.injEq] at houtlined
    rw [outlines, outlines, houtlined.1]

theorem tail (h : Stand content lead rest (n :: back) (o :: os)) :
    Stand content (lead ++ n.source) rest back os := by
  obtain ⟨hwhole, hnormal, houtlined⟩ := h
  have hfront : content = lead ++ n.source ++ (sources back ++ rest) := by simp [hwhole, sources]
  refine ⟨?_, hnormal.right, ?_⟩
  · simp [hwhole, sources]
  · rw [outlines, List.cons.injEq] at houtlined
    rw [Text.lineOf_of_eq hfront, List.length_append, houtlined.2]

theorem exists_mem (h : Stand content lead rest ns os) (ho : o ∈ os) :
    ∃ lead rest n, Stand content lead rest [n] [o] := by
  induction ns generalizing lead os with
  | nil =>
    rw [h.outlined] at ho
    cases ho
  | cons n back ih =>
    have hos := h.outlined
    rw [outlines] at hos
    subst hos
    rcases List.mem_cons.1 ho with rfl | ho
    · exact ⟨lead, sources back ++ rest, n, h.head⟩
    · exact ih h.tail ho

theorem exists_children (h : Stand content lead rest [.block tag inner ns closing] [o]) :
    ∃ stop os, o = .block tag lead.length stop (content.lineOf lead.length) (Text.trim inner)
        (sources ns) os ∧
      Stand content (lead ++ (Token.opening tag inner).source)
        ((Token.closing tag closing).source ++ rest) ns os := by
  obtain ⟨hwhole, hnormal, houtlined⟩ := h
  have hbehind : content = lead ++ (Token.opening tag inner).source ++
      (sources ns ++ (Token.closing tag closing).source ++ rest) := by
    simp [hwhole, sources, source]
  rw [forestPieces_singleton, pieces, ← List.singleton_append] at hnormal
  rw [outlines, outlines, outline, List.cons.injEq] at houtlined
  refine ⟨_, _, houtlined.1, ?_, hnormal.right.left, ?_⟩
  · simp [hwhole, sources, source]
  · rw [Text.lineOf_of_eq hbehind, List.length_append]

theorem exists_occurs (h : Stand content lead rest ns os) (ho : Outline.Occurs o os) :
    ∃ lead rest n, Stand content lead rest [n] [o] := by
  induction ho generalizing lead rest ns with
  | here hmem => exact h.exists_mem hmem
  | inside hmem _ ih =>
    obtain ⟨_, _, n, hblock⟩ := h.exists_mem hmem
    cases n with
    | plain body => cases hblock.outlined
    | block tag inner cs closing =>
      -- The children of the block stand between its markers, so the claim descends into them.
      obtain ⟨_, _, heq, hchildren⟩ := hblock.exists_children
      cases heq
      exact ih hchildren

end Stand

theorem stand_of_parse (h : Node.parse content = .ok ns) :
    Stand content [] [] ns (outlines 0 1 ns) where
  whole := by simp [sources_of_parse h]
  normal := by
    rw [← parse_eq_ok_iff.1 h]
    exact Piece.normal_ofText content
  outlined := rfl

/-- The body of a block of an accepted template, at whatever depth the block is, is cut as if
nothing stood around it, and read on its own as the nodes inside the block. Their places are
counted from the start of the body. -/
theorem parse_body (h : Node.parse content = .ok ns) {tag : Tag} {start stop line : Nat}
    {argument body : Text} {children : List Outline}
    (ho : Outline.Occurs (.block tag start stop line argument body children) (outlines 0 1 ns)) :
    ∃ lead inner closing rest ms,
      content = lead ++ (Token.opening tag inner).source ++ body ++
        (Token.closing tag closing).source ++ rest ∧ lead.length = start ∧
      Piece.ofText content = Piece.ofText lead ++ .marker (.opening tag inner) ::
        (Piece.ofText body ++ .marker (.closing tag closing) :: Piece.ofText rest) ∧
      Node.parse body = .ok ms ∧
      let front := lead ++ (Token.opening tag inner).source
      children = Outline.shiftAll front.length (front.count (chr '\n')) (outlines 0 1 ms) := by
  obtain ⟨lead, rest, n, hstand⟩ := (stand_of_parse h).exists_occurs ho
  cases n with
  | plain body => cases hstand.outlined
  | block tag' inner cs closing =>
    obtain ⟨_, _, heq, hchildren⟩ := hstand.exists_children
    cases heq
    have hproper := hstand.normal.proper
    have hopening : (Token.opening tag inner).WellFormed :=
      hproper (.marker (.opening tag inner)) (by simp [forestPieces, pieces])
    have hclosing : (Token.closing tag closing).WellFormed :=
      hproper (.marker (.closing tag closing)) (by simp [forestPieces, pieces])
    have hwhole : content = lead ++ (Token.opening tag inner).source ++ sources cs ++
        (Token.closing tag closing).source ++ rest := by
      rw [hchildren.whole]
      simp
    refine ⟨lead, inner, closing, rest, cs, hwhole, rfl, ?_, ?_, ?_⟩
    -- No marker reaches over the two of the block, so the cut starts anew behind each of them.
    · rw [hwhole, Piece.ofText_append_source hclosing, Piece.ofText_append_source hopening]
      simp
    · exact parse_eq_ok_iff.2
        (Piece.ofText_eq_iff.2 ⟨hchildren.normal, flatMap_source_forestPieces cs⟩)
    · have hlines : content.lineOf (lead ++ (Token.opening tag inner).source).length =
          1 + (lead ++ (Token.opening tag inner).source).count (chr '\n') := by
        rw [hchildren.whole, Text.lineOf, List.append_assoc, List.take_left]
      have hshift := outlines_add (lead ++ (Token.opening tag inner).source).length
        ((lead ++ (Token.opening tag inner).source).count (chr '\n')) 0 1 cs
      rw [Nat.zero_add, ← hlines, ← hchildren.outlined] at hshift
      exact hshift

theorem parse_body_nested :
    let content := text "a\n\x7b\x7b#if b\x7d\x7d\x7b\x7b#each c\x7d\x7d" ++
      text "d\x7b\x7b/each\x7d\x7d\x7b\x7b/if\x7d\x7d"
    let ns : List Node := [.plain (text "a\n"), .block .when (text " b")
      [.block .each (text " c") [.plain (text "d")] []] []]
    let inside : List Outline := [.plain 22 23 2 ['d']]
    Node.parse content = .ok ns ∧
      Outline.Occurs (.block .each 11 32 2 ['c'] ['d'] inside) (outlines 0 1 ns) ∧
      ∃ lead inner closing rest ms,
        content = lead ++ (Token.opening .each inner).source ++ [chr 'd'] ++
          (Token.closing .each closing).source ++ rest ∧ lead.length = 11 ∧
        Piece.ofText content = Piece.ofText lead ++ .marker (.opening .each inner) ::
          (Piece.ofText [chr 'd'] ++ .marker (.closing .each closing) :: Piece.ofText rest) ∧
        Node.parse ['d'] = .ok ms ∧
        let front := lead ++ (Token.opening .each inner).source
        inside = Outline.shiftAll front.length (front.count (chr '\n')) (outlines 0 1 ms) := by
  intro content ns inside
  have hparse : Node.parse content = .ok ns := parse_eq_ok_iff.2 (by decide +kernel)
  have hinner : Outline.Occurs (.block .each 11 32 2 ['c'] ['d'] inside) (outlines 0 1 ns) :=
    .inside (List.mem_cons_of_mem _ List.mem_cons_self) (.here List.mem_cons_self)
  exact ⟨hparse, hinner, parse_body hparse hinner⟩

end Node

end Stencil
