import Stencil.Proofs.Template.Forest

/-!
# Outlines tile the template

The outlines of an accepted template cover it from end to end, and the outlines inside a block cover
what stands between its two markers. So no text is lost or counted twice at any depth.
-/

namespace Stencil

/-- The line of an offset: one more than the newlines in front of it. -/
def Text.lineOf (s : Text) (offset : Nat) : Nat := 1 + (s.take offset).count (chr '\n')

namespace Node.Outline

def start : Outline → Nat
  | plain start .. => start
  | block _ start .. => start

def stop : Outline → Nat
  | plain _ stop .. => stop
  | block _ _ stop .. => stop

def line : Outline → Nat
  | plain _ _ line _ => line
  | block _ _ _ line .. => line

mutual

/-- Whether an outline says what stands at its place. A block has its two markers at its ends and
other outlines exactly between them. -/
def Fits (content : Text) : Outline → Prop
  | plain start stop _ body => body = content.slice start stop ∧ ¬HoldsToken body
  | block tag start stop _ argument body children =>
    ∃ inner closing, IsInner inner ∧ IsInner closing ∧
      let opener := (Token.opening tag inner).source
      let closer := (Token.closing tag closing).source
      opener <+: content.slice start stop ∧ closer <:+ content.slice start stop ∧
        argument = Text.trim inner ∧
        body = content.slice (start + opener.length) (stop - closer.length) ∧
        Tiles content (start + opener.length) (stop - closer.length) children

/-- Whether outlines cover the text between two offsets one after the other, without a gap, an
overlap or an empty one, and fit there. -/
def Tiles (content : Text) (start stop : Nat) : List Outline → Prop
  | [] => start = stop
  | o :: os =>
    o.start = start ∧ o.start < o.stop ∧ o.line = content.lineOf o.start ∧ Fits content o ∧
      Tiles content o.stop stop os

end

end Node.Outline

/-! ## Slices -/

namespace Text

variable {content lead s rest : Text}

theorem slice_of_eq (h : content = lead ++ s ++ rest) :
    content.slice lead.length (lead.length + s.length) = s := by
  simp [h, slice]

theorem lineOf_of_eq (h : content = lead ++ s ++ rest) :
    content.lineOf (lead ++ s).length = content.lineOf lead.length + s.count (chr '\n') := by
  have hfront : content.take lead.length = lead := by simp [h]
  have hboth : content.take (lead ++ s).length = lead ++ s := by rw [h, List.take_left]
  rw [lineOf, lineOf, hfront, hboth, List.count_append, Nat.add_assoc]

theorem slice_append_slice (s : Text) {i j k : Nat} (hij : i ≤ j) (hjk : j ≤ k) :
    s.slice i j ++ s.slice j k = s.slice i k := by
  have hj : j = i + (j - i) := by omega
  have hk : k - i = (j - i) + (k - j) := by omega
  rw [slice, slice, slice, hk, List.take_add, List.drop_drop, ← hj]

theorem slice_self (s : Text) (i : Nat) : s.slice i i = [] := by
  simp [slice]

theorem slice_all (s : Text) : s.slice 0 s.length = s := by
  simp [slice]

end Text

/-! ## Outlines of nodes -/

namespace Node

theorem start_outline (start line : Nat) (n : Node) : (outline start line n).start = start := by
  cases n <;> rfl

theorem stop_outline (start line : Nat) (n : Node) :
    (outline start line n).stop = start + n.source.length := by
  cases n <;> rfl

theorem line_outline (start line : Nat) (n : Node) : (outline start line n).line = line := by
  cases n <;> rfl

theorem source_ne_nil {n : Node} (h : ∀ p ∈ n.pieces, p.Proper) : n.source ≠ [] := by
  cases n with
  | plain body => exact (h (.plain body) (by simp [pieces])).1
  | block tag inner children closing => simp [source, Token.source_ne_nil]

mutual

theorem fits_outline {content : Text} : (n : Node) → (∀ p ∈ n.pieces, p.Proper) →
    {lead rest : Text} → content = lead ++ n.source ++ rest →
    Outline.Fits content (outline lead.length (content.lineOf lead.length) n)
  | plain body, h, lead, rest, hc =>
    ⟨(Text.slice_of_eq hc).symm, (h (.plain body) (by simp [pieces])).2⟩
  | block tag inner children closing, h, lead, rest, hc => by
    have hopening : IsInner inner := h (.marker (.opening tag inner)) (by simp [pieces])
    have hclosing : IsInner closing := h (.marker (.closing tag closing)) (by simp [pieces])
    have hslice := Text.slice_of_eq hc
    have hinside : content = lead ++ (Token.opening tag inner).source ++ sources children ++
        ((Token.closing tag closing).source ++ rest) := by
      simp [hc, source]
    have hbehind : content = lead ++ (Token.opening tag inner).source ++
        (sources children ++ (Token.closing tag closing).source ++ rest) := by
      simp [hc, source]
    have hchildren := tiles_outlines children (fun p hp => h p (by simp [pieces, hp])) hinside
    -- The children start behind the opening marker and stop in front of the closing one.
    have hstop : lead.length + (block tag inner children closing).source.length -
        (Token.closing tag closing).source.length =
          (lead ++ (Token.opening tag inner).source).length + (sources children).length := by
      simp [source]
      omega
    have hbody := Text.slice_of_eq hinside
    rw [← hstop, List.length_append] at hbody
    rw [← hstop, List.length_append, ← List.length_append, Text.lineOf_of_eq hbehind,
      List.length_append] at hchildren
    refine ⟨inner, closing, hopening, hclosing, ?_, ?_, rfl, hbody.symm, hchildren⟩
    · rw [hslice, source, List.append_assoc]
      exact List.prefix_append _ _
    · rw [hslice, source]
      exact List.suffix_append _ _

theorem tiles_outlines {content : Text} : (ns : List Node) → (∀ p ∈ forestPieces ns, p.Proper) →
    {lead rest : Text} → content = lead ++ sources ns ++ rest →
    Outline.Tiles content lead.length (lead.length + (sources ns).length)
      (outlines lead.length (content.lineOf lead.length) ns)
  | [], _, lead, rest, hc => rfl
  | n :: ns, h, lead, rest, hc => by
    have hn : ∀ p ∈ n.pieces, p.Proper := fun p hp => h p (by simp [forestPieces, hp])
    have hfront : content = lead ++ n.source ++ (sources ns ++ rest) := by simp [hc, sources]
    have hback : content = lead ++ n.source ++ sources ns ++ rest := by simp [hc, sources]
    have hrest := tiles_outlines ns (fun p hp => h p (by simp [forestPieces, hp])) hback
    have hsize : (sources (n :: ns)).length = n.source.length + (sources ns).length := by
      simp [sources]
    rw [Text.lineOf_of_eq hfront, List.length_append, Nat.add_assoc, ← hsize] at hrest
    have hpos := List.length_pos_iff.2 (source_ne_nil hn)
    refine ⟨start_outline _ _ n, ?_, ?_, fits_outline n hn hfront, ?_⟩
    · rw [start_outline, stop_outline]
      omega
    · rw [start_outline, line_outline]
    · rw [stop_outline]
      exact hrest

end

namespace Outline

theorem Tiles.flatMap_slice {content : Text} {start stop : Nat} {os : List Outline}
    (h : Tiles content start stop os) :
    start ≤ stop ∧
      (os.flatMap fun o => content.slice o.start o.stop) = content.slice start stop := by
  induction os generalizing start with
  | nil =>
    cases h
    exact ⟨Nat.le_refl _, (Text.slice_self _ _).symm⟩
  | cons o os ih =>
    obtain ⟨rfl, hlt, -, -, htiles⟩ := h
    obtain ⟨hle, hrest⟩ := ih htiles
    refine ⟨by omega, ?_⟩
    rw [List.flatMap_cons, hrest, Text.slice_append_slice content (by omega) hle]

end Outline

/-- The outlines of an accepted template tile it, so their slices make it again. -/
theorem tiles_of_parse {content : Text} {ns : List Node} (h : Node.parse content = .ok ns) :
    Outline.Tiles content 0 content.length (outlines 0 1 ns) ∧
      ((outlines 0 1 ns).flatMap fun o => content.slice o.start o.stop) = content := by
  have hsource : content = [] ++ sources ns ++ [] := by simp [sources_of_parse h]
  have hproper : ∀ p ∈ forestPieces ns, p.Proper := by
    rw [← parse_eq_ok_iff.1 h]
    exact (Piece.normal_ofText content).proper
  have htiles := tiles_outlines ns hproper hsource
  rw [List.length_nil, Nat.zero_add, sources_of_parse h] at htiles
  exact ⟨htiles, htiles.flatMap_slice.2.trans content.slice_all⟩

theorem tiles_of_parse_nested :
    let content := text "a\n\x7b\x7b#if b\x7d\x7dc\x7b\x7b#each d\x7d\x7d" ++
      text "\x7b\x7b/each\x7d\x7d\x7b\x7b/if\x7d\x7d"
    let ns : List Node := [.plain (text "a\n"), .block .when (text " b")
      [.plain (text "c"), .block .each (text " d") [] []] []]
    Node.parse content = .ok ns ∧ Outline.Tiles content 0 39 (outlines 0 1 ns) := by
  intro content ns
  have hparse : Node.parse content = .ok ns := parse_eq_ok_iff.2 (by decide +kernel)
  exact ⟨hparse, (tiles_of_parse hparse).1⟩

end Node

end Stencil
