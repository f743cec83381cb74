import Stencil.Proofs.Template.Tiling
import Stencil.Template.Outlining

/-!
# Outlines while markers are matched

The outlines that are made while the markers of a template are matched are those of its nodes.
-/

namespace Stencil.Node

variable {template lead rest : Text}

/-! ## Balanced templates -/

mutual

theorem matchMarkers_outline (done : List Outline) (opened : List Outline.Frame)
    (more : List Piece) : (n : Node) → {lead rest : Text} → template = lead ++ n.source ++ rest →
    (line : Nat) →
    Outline.matchMarkers template lead.length line done opened (n.pieces ++ more) =
      Outline.matchMarkers template (lead ++ n.source).length (line + n.source.count (chr '\n'))
        (outline lead.length line n :: done) opened more
  | .plain body, lead, rest, h, line => by
    have hbody := Text.slice_of_eq h
    simp only [source] at hbody
    simp only [pieces, List.cons_append, List.nil_append, Outline.matchMarkers, Piece.source,
      source, outline, List.length_append, hbody]
  | .block tag inner children closing, lead, rest, h, line => by
    have hinside : template = lead ++ (Token.opening tag inner).source ++ sources children ++
        ((Token.closing tag closing).source ++ rest) := by
      simp [h, source]
    have hbody := Text.slice_of_eq hinside
    have hchildren := matchMarkers_outlines []
      (⟨tag, Text.trim inner, lead.length, (lead ++ (Token.opening tag inner).source).length, line,
        done⟩ :: opened) (.marker (.closing tag closing) :: more) children hinside
      (line + (Token.opening tag inner).source.count (chr '\n'))
    simp only [List.append_nil, ← List.length_append] at hbody hchildren
    rw [List.append_assoc lead] at hbody
    simp only [pieces, List.cons_append, List.append_assoc, List.nil_append, Outline.matchMarkers,
      Piece.source, source, outline, ← List.length_append, hchildren, hbody, beq_self_eq_true,
      if_true, List.reverse_reverse, List.count_append, Nat.add_assoc]

theorem matchMarkers_outlines (done : List Outline) (opened : List Outline.Frame)
    (more : List Piece) : (ns : List Node) → {lead rest : Text} →
    template = lead ++ sources ns ++ rest → (line : Nat) →
    Outline.matchMarkers template lead.length line done opened (forestPieces ns ++ more) =
      Outline.matchMarkers template (lead ++ sources ns).length
        (line + (sources ns).count (chr '\n')) ((outlines lead.length line ns).reverse ++ done)
        opened more
  | [], lead, rest, h, line => by simp [forestPieces, sources, outlines]
  | n :: ns, lead, rest, h, line => by
    have hfront : template = lead ++ n.source ++ (sources ns ++ rest) := by simp [h, sources]
    have hback : template = (lead ++ n.source) ++ sources ns ++ rest := by simp [h, sources]
    have hrest := matchMarkers_outlines (outline lead.length line n :: done) opened more ns hback
      (line + n.source.count (chr '\n'))
    rw [forestPieces, List.append_assoc, matchMarkers_outline done opened _ n hfront line, hrest,
      sources, outlines]
    simp [Nat.add_assoc]

end

/-! ## All templates -/

/-- Outlines are made exactly if nodes are: both stacks hold the same tags. -/
theorem isSome_matchMarkers {p : Position} {done : List Node} {opened : List OpenBlock}
    {ps : List Piece} {offset line : Nat} {outlined : List Outline} {frames : List Outline.Frame}
    (h : frames.map (·.tag) = opened.map (·.tag)) :
    (Outline.matchMarkers template offset line outlined frames ps).isSome =
      (matchMarkers p done opened ps).toOption.isSome := by
  induction ps generalizing p done opened offset line outlined frames with
  | nil =>
    cases opened with
    | nil =>
      obtain rfl := List.map_eq_nil_iff.1 h
      rfl
    | cons b opened =>
      obtain ⟨f, frames, rfl, -, -⟩ := List.map_eq_cons_iff.1 h
      rw [Outline.matchMarkers, matchMarkers, List.getLast?_cons]
      rfl
  | cons piece ps ih =>
    cases piece with
    | plain body => exact ih h
    | marker token =>
      cases token with
      | opening tag inner => exact ih (congrArg (tag :: ·) h)
      | closing tag inner =>
        cases opened with
        | nil =>
          obtain rfl := List.map_eq_nil_iff.1 h
          rfl
        | cons b opened =>
          obtain ⟨f, frames, rfl, htag, htags⟩ := List.map_eq_cons_iff.1 h
          simp only [Outline.matchMarkers, matchMarkers, htag]
          split
          · exact ih htags
          · rfl

/-- The outlines that are made on the way are those of the nodes of the template. -/
theorem parse?_eq (template : Text) :
    Outline.parse? template = ((parse template).map (outlines 0 1)).toOption := by
  cases h : parse template with
  | ok ns =>
    have hsource : template = [] ++ sources ns ++ [] := by simp [sources_of_parse h]
    have hmatch := matchMarkers_outlines [] [] [] ns hsource 1
    rw [List.append_nil, List.append_nil, ← parse_eq_ok_iff.1 h] at hmatch
    rw [Outline.parse?]
    exact hmatch.trans (by simp [Outline.matchMarkers, Except.map, Except.toOption])
  | error e =>
    have hnone := @isSome_matchMarkers template .start [] [] (Piece.ofText template) 0 1 [] [] rfl
    rw [parse] at h
    rw [h] at hnone
    exact Option.isNone_iff_eq_none.1 (Option.isSome_eq_false_iff.1 hnone)

end Stencil.Node
