import Mathlib.Data.Prod.Lex
import Mathlib.Order.Monotone.Basic
import Stencil.Proofs.Outcome
import Stencil.Proofs.Template.Refusal
import Stencil.Proofs.Text.BlankLines

/-!
# Positions in templates

A position says how many newlines stand in front of it and how far it is behind the last of them. So
positions are ordered as the offsets that they were made from, and each of them leads back to its
offset: the positions of an error lead to the markers that it names.
-/

namespace Stencil

/-! ## Whole lines -/

namespace Text

variable {full input : List Text}

theorem AreLines.exists_full (h : AreLines input) :
    ∃ (full : List Text) (tail : Text), input.flatten = full.flatten ++ tail ∧
      (∀ line ∈ full, IsEnded line) ∧ chr '\n' ∉ tail := by
  induction h with
  | nil => exact ⟨[], [], rfl, by simp, by simp⟩
  | @last body _ hbody => exact ⟨[], body, by simp, by simp, hbody⟩
  | @line line rest hline _ ih =>
    obtain ⟨full, tail, hsplit, hfull, htail⟩ := ih
    refine ⟨line :: full, tail, ?_, List.forall_mem_cons.2 ⟨hline, hfull⟩, htail⟩
    rw [List.flatten_cons, List.flatten_cons, hsplit, List.append_assoc]

theorem take_lines (hfull : ∀ line ∈ full, IsEnded line) (s : Text) :
    (lines (full.flatten ++ s)).take full.length = full := by
  induction full with
  | nil => simp
  | cons line full ih =>
    obtain ⟨hline, hrest⟩ := List.forall_mem_cons.1 hfull
    rw [List.flatten_cons, List.append_assoc, hline.lines_append, List.length_cons,
      List.take_succ_cons, ih hrest]

theorem count_flatten (hfull : ∀ line ∈ full, IsEnded line) :
    full.flatten.count (chr '\n') = full.length := by
  induction full with
  | nil => rfl
  | cons line full ih =>
    obtain ⟨⟨body, hbody, rfl⟩, hrest⟩ := List.forall_mem_cons.1 hfull
    have hline : (body ++ [chr '\n']).count (chr '\n') = 1 := by
      simp [List.count_eq_zero_of_not_mem hbody]
    rw [List.flatten_cons, List.count_append, hline, ih hrest, List.length_cons, Nat.add_comm]

end Text

namespace Position

variable {p : Position} {full : List Text} {s body tail : Text} {o o' : Nat}

theorem behind_of_not_mem (h : chr '\n' ∉ body) :
    p.behind body = ⟨p.line, p.column + body.length⟩ := by
  induction body generalizing p with
  | nil => rfl
  | cons c body ih =>
    obtain ⟨hc, hbody⟩ := not_or.1 (List.mem_cons.not.1 h)
    have hnext : p.next c = ⟨p.line, p.column + 1⟩ := by simp [next, Ne.symm hc]
    have hstep : p.behind (c :: body) = (p.next c).behind body := rfl
    rw [hstep, hnext, ih hbody]
    simp only [List.length_cons, Position.mk.injEq, true_and]
    omega

theorem behind_of_isEnded {line : Text} (h : line.IsEnded) : p.behind line = ⟨p.line + 1, 1⟩ := by
  obtain ⟨body, hbody, rfl⟩ := h
  rw [behind_append, behind_of_not_mem hbody]
  rfl

theorem behind_full {n : Nat} (hfull : ∀ line ∈ full, Text.IsEnded line) (htail : chr '\n' ∉ tail) :
    (⟨n, 1⟩ : Position).behind (full.flatten ++ tail) = ⟨n + full.length, 1 + tail.length⟩ := by
  induction full generalizing n with
  | nil => exact behind_of_not_mem htail
  | cons line full ih =>
    obtain ⟨hline, hrest⟩ := List.forall_mem_cons.1 hfull
    rw [List.flatten_cons, List.append_assoc, behind_append, behind_of_isEnded hline, ih hrest]
    simp only [List.length_cons, Position.mk.injEq, and_true]
    omega

/-! ## Positions and offsets -/

/-- An offset cuts a text behind whole lines and a tail. -/
structure IsCut (s : Text) (o : Nat) (full : List Text) (tail : Text) : Prop where
  front : s.take o = full.flatten ++ tail
  isEnded : ∀ line ∈ full, Text.IsEnded line
  not_mem : chr '\n' ∉ tail

theorem exists_isCut (s : Text) (o : Nat) : ∃ full tail, IsCut s o full tail := by
  obtain ⟨full, tail, hfront, hfull, htail⟩ := (Text.areLines_lines (s.take o)).exists_full
  rw [Text.flatten_lines] at hfront
  exact ⟨full, tail, hfront, hfull, htail⟩

namespace IsCut

theorem ofOffset_eq (h : IsCut s o full tail) :
    ofOffset s o = ⟨1 + full.length, 1 + tail.length + (o - s.length)⟩ := by
  rw [ofOffset, h.front, start, behind_full h.isEnded h.not_mem]

theorem offset_eq (h : IsCut s o full tail) :
    o = full.flatten.length + tail.length + (o - s.length) := by
  have hlength := congrArg List.length h.front
  rw [List.length_take, List.length_append] at hlength
  omega

theorem take_lines (h : IsCut s o full tail) : (Text.lines s).take full.length = full := by
  have hs : s = full.flatten ++ (tail ++ s.drop o) := by
    rw [← List.append_assoc, ← h.front, List.take_append_drop]
  rw [hs]
  exact Text.take_lines h.isEnded _

theorem count_eq (h : IsCut s o full tail) : (s.take o).count (chr '\n') = full.length := by
  rw [h.front, List.count_append, Text.count_flatten h.isEnded,
    List.count_eq_zero_of_not_mem h.not_mem, Nat.add_zero]

end IsCut

/-- The offset that a position leads to: the length of the lines in front of its own, with their
newlines, and what stands in front of its column. -/
def offsetIn (s : Text) (p : Position) : Nat :=
  ((Text.lines s).take (p.line - 1)).flatten.length + p.column - 1

theorem line_ofOffset (s : Text) (o : Nat) :
    (ofOffset s o).line = 1 + (s.take o).count (chr '\n') := by
  obtain ⟨full, tail, h⟩ := exists_isCut s o
  rw [h.ofOffset_eq, h.count_eq]

theorem column_ofOffset_pos (s : Text) (o : Nat) : 0 < (ofOffset s o).column := by
  obtain ⟨full, tail, h⟩ := exists_isCut s o
  rw [h.ofOffset_eq]
  dsimp only
  omega

theorem offsetIn_ofOffset (s : Text) (o : Nat) : offsetIn s (ofOffset s o) = o := by
  obtain ⟨full, tail, h⟩ := exists_isCut s o
  have ho := h.offset_eq
  rw [offsetIn, h.ofOffset_eq, Nat.add_sub_cancel_left, h.take_lines]
  dsimp only
  omega

theorem line_ofOffset_mono (s : Text) (h : o ≤ o') :
    (ofOffset s o).line ≤ (ofOffset s o').line := by
  rw [line_ofOffset, line_ofOffset]
  have hcount := (List.take_prefix_take_left h (l := s)).sublist.count_le (chr '\n')
  omega

/-- A position with its line and column in the order in which positions are compared. -/
def key (p : Position) : Nat ×ₗ Nat := toLex (p.line, p.column)

theorem strictMono_key_ofOffset (s : Text) : StrictMono fun o => (ofOffset s o).key := by
  intro o o' hlt
  have hline := line_ofOffset_mono s (Nat.le_of_lt hlt)
  have ho := offsetIn_ofOffset s o
  have ho' := offsetIn_ofOffset s o'
  have hcolumn := column_ofOffset_pos s o
  have hcolumn' := column_ofOffset_pos s o'
  rw [offsetIn] at ho ho'
  dsimp only [key]
  rw [Prod.Lex.toLex_lt_toLex]
  obtain heq | hlt' := Nat.eq_or_lt_of_le hline
  · -- On one line the lines in front are the same, so the columns differ as the offsets do.
    refine .inr ⟨heq, ?_⟩
    dsimp only
    rw [← heq] at ho'
    omega
  · exact .inl hlt'

end Position

/-! ## Positions of errors -/

def TemplateError.positions : TemplateError → List Position
  | unexpected _ p => [p]
  | mismatched _ p b => [p, b.position]
  | unclosed b => [b.position]

def Position.IsOfMarker (content : Text) (p : Position) : Prop :=
  ∃ (lead : Text) (t : Token) (rest : Text),
    content = lead ++ (t.source ++ rest) ∧ p = start.behind lead

/-- Matching blames markers at the positions where they stand: it knows those of the open blocks,
and that of the marker that it has come to. -/
theorem isOfMarker_of_matchMarkers {content lead : Text} {here : Position} {done : List Node}
    {opened : List OpenBlock} {ps : List Piece} {e : TemplateError}
    (hc : content = lead ++ ps.flatMap Piece.source) (hhere : here = .behind .start lead)
    (hopened : ∀ b ∈ opened, b.position.IsOfMarker content)
    (h : matchMarkers here done opened ps = .error e) :
    ∀ p ∈ e.positions, p.IsOfMarker content := by
  induction ps generalizing lead here done opened with
  | nil =>
    rw [matchMarkers] at h
    split at h
    · cases h
    · next b hlast =>
      obtain rfl := Except.error.inj h
      simpa [TemplateError.positions] using hopened b (List.mem_of_getLast? hlast)
  | cons piece ps ih =>
    have hnext : content = (lead ++ piece.source) ++ ps.flatMap Piece.source := by
      rw [hc, List.flatMap_cons, List.append_assoc]
    have hbehind : here.behind piece.source = .behind .start (lead ++ piece.source) := by
      rw [hhere, Position.behind_append]
    cases piece with
    | plain body =>
      rw [matchMarkers] at h
      exact ih hnext hbehind hopened h
    | marker t =>
      have hmarker : here.IsOfMarker content := ⟨lead, t, _, hc, hhere⟩
      cases t with
      | opening tag inner =>
        rw [matchMarkers] at h
        exact ih hnext hbehind (List.forall_mem_cons.2 ⟨hmarker, hopened⟩) h
      | closing tag inner =>
        cases opened with
        | nil =>
          obtain rfl := Except.error.inj h
          simpa [TemplateError.positions] using hmarker
        | cons b opened =>
          obtain ⟨hb, hrest⟩ := List.forall_mem_cons.1 hopened
          rw [matchMarkers] at h
          split at h
          · exact ih hnext hbehind hrest h
          · obtain rfl := Except.error.inj h
            simpa [TemplateError.positions] using And.intro hmarker hb

theorem isOfMarker_of_parse {content : Text} {e : TemplateError}
    (h : Node.parse content = .error e) : ∀ p ∈ e.positions, p.IsOfMarker content := by
  have hstart : Position.start = .behind .start [] := rfl
  refine isOfMarker_of_matchMarkers ?_ hstart (by simp) h
  rw [List.nil_append, Piece.flatMap_source_ofText]

theorem Position.IsOfMarker.exists_source {content : Text} {p : Position}
    (h : p.IsOfMarker content) :
    ofOffset content (p.offsetIn content) = p ∧
      ∃ t : Token, t.source <+: content.drop (p.offsetIn content) := by
  obtain ⟨lead, t, rest, rfl, rfl⟩ := h
  rw [← ofOffset_append lead (t.source ++ rest), offsetIn_ofOffset, List.drop_left]
  exact ⟨rfl, t, List.prefix_append t.source rest⟩

/-- A position counts the newlines in front of its offset and the characters behind the last of
them, so it leads back to the offset. Later offsets have later positions, and the positions that an
error names lead to block markers. -/
theorem Position.ofOffset_leads_back (content : Text) :
    (∀ o, let p := ofOffset content o
      0 < p.line ∧ 0 < p.column ∧ p.line - 1 = (content.take o).count (chr '\n') ∧
        o = ((Text.lines content).take (p.line - 1)).flatten.length + p.column - 1) ∧
    (StrictMono fun o => (ofOffset content o).key) ∧
    Function.Injective (ofOffset content) ∧
    (∀ o, offsetIn content (ofOffset content o) = o) ∧
    ∀ e, Node.parse content = .error e → ∀ p ∈ e.positions,
      ofOffset content (offsetIn content p) = p ∧
        ∃ t : Token, t.source <+: content.drop (offsetIn content p) := by
  have hback := offsetIn_ofOffset content
  refine ⟨fun o => ⟨?_, column_ofOffset_pos content o, ?_, (hback o).symm⟩,
    strictMono_key_ofOffset content, Function.LeftInverse.injective hback, hback,
    fun e h p hp => (isOfMarker_of_parse h p hp).exists_source⟩
  · rw [line_ofOffset]
    omega
  · rw [line_ofOffset]
    omega

theorem Position.ofOffset_leads_back_crossed :
    let content := text "a\n\x7b\x7b#if b\x7d\x7d\n\x7b\x7b/each\x7d\x7d"
    ∃ e, Node.parse content = .error e ∧ e.positions = [⟨3, 1⟩, ⟨2, 1⟩] ∧
      e.positions.map (offsetIn content) = [12, 2] ∧
      ∀ p ∈ e.positions, ∃ t : Token, t.source <+: content.drop (offsetIn content p) := by
  intro content
  have hparse : ((Node.parse content).map fun _ => ()).mapError TemplateError.positions =
      .error [⟨3, 1⟩, ⟨2, 1⟩] := by decide +kernel
  obtain ⟨e, he, hpositions⟩ := Outcome.mapError_eq_error_iff.1 hparse
  have herror := Outcome.map_eq_error_iff.1 he
  refine ⟨e, herror, hpositions, ?_, fun p hp => ?_⟩
  · rw [hpositions]
    decide +kernel
  · exact ((ofOffset_leads_back content).2.2.2.2 e herror p hp).2

end Stencil
