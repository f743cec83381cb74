import Stencil.Proofs.Template.Forest
import Stencil.Proofs.Template.Nesting
import Stencil.Rendering

/-!
# Templates that are refused

A template is accepted exactly if its markers are well nested. Otherwise the first marker is blamed
behind which no continuation helps, or the first one that is never closed, and nothing is rendered.
-/

namespace Stencil

/-! ## The markers of a template -/

def markersFrom (offset : Nat) : List Piece → List Marker
  | [] => []
  | .plain body :: ps => markersFrom (offset + body.length) ps
  | .marker t :: ps => ⟨offset, t⟩ :: markersFrom (offset + t.source.length) ps

def markers (content : Text) : List Marker := markersFrom 0 (Piece.ofText content)

theorem markersFrom_append (offset : Nat) (ps qs : List Piece) :
    markersFrom offset (ps ++ qs) =
      markersFrom offset ps ++ markersFrom (offset + (ps.flatMap Piece.source).length) qs := by
  induction ps generalizing offset with
  | nil => rfl
  | cons p ps ih =>
    cases p with
    | plain body | marker t => simp [markersFrom, ih, Piece.source, Nat.add_assoc]

theorem exists_split {offset : Nat} {ps : List Piece} {pre post : List Marker} {m : Marker}
    (h : markersFrom offset ps = pre ++ m :: post) :
    ∃ front back, ps = front ++ .marker m.token :: back ∧ markersFrom offset front = pre ∧
      m.offset = offset + (front.flatMap Piece.source).length := by
  induction ps generalizing offset pre with
  | nil => simp [markersFrom] at h
  | cons p ps ih =>
    cases p with
    | plain body =>
      obtain ⟨front, back, rfl, hpre, hoffset⟩ := ih h
      refine ⟨.plain body :: front, back, rfl, hpre, ?_⟩
      simp [hoffset, Piece.source, Nat.add_assoc]
    | marker t =>
      cases pre with
      | nil =>
        simp only [markersFrom, List.nil_append, List.cons.injEq] at h
        obtain ⟨rfl, -⟩ := h
        exact ⟨[], ps, rfl, rfl, rfl⟩
      | cons m' pre =>
        simp only [markersFrom, List.cons_append, List.cons.injEq] at h
        obtain ⟨rfl, h⟩ := h
        obtain ⟨front, back, rfl, hpre, hoffset⟩ := ih h
        refine ⟨.marker t :: front, back, rfl, by simp [markersFrom, hpre], ?_⟩
        simp [hoffset, Piece.source, Nat.add_assoc]

theorem Position.ofOffset_append (s rest : Text) :
    ofOffset (s ++ rest) s.length = start.behind s := by
  simp [ofOffset]

/-! ## Accepted templates -/

mutual

theorem wellNested_pieces (offset : Nat) :
    (n : Node) → WellNested (tokens (markersFrom offset n.pieces))
  | .plain body => .nil
  | .block tag inner children closing => by
    have hinside := wellNested_forestPieces (offset + (Token.opening tag inner).source.length)
      children
    have hblock : WellNested (.opening tag inner :: (_ ++ [.closing tag closing])) :=
      .block hinside .nil
    simpa [Node.pieces, markersFrom, markersFrom_append, tokens] using hblock

theorem wellNested_forestPieces (offset : Nat) :
    (ns : List Node) → WellNested (tokens (markersFrom offset (Node.forestPieces ns)))
  | [] => .nil
  | n :: ns => by
    rw [Node.forestPieces, markersFrom_append, tokens_append]
    exact (wellNested_pieces offset n).append (wellNested_forestPieces _ ns)

end

/-! ## Runs -/

/-- The marker of an open block is this one, at the place where it stands in the template. -/
def OpenBlock.marked (b : OpenBlock) : Token × Position := (.opening b.tag b.inner, b.position)

/-- What matching keeps behind some pieces of a template: the open blocks are the markers that are
left open, each with its place. -/
def Reached (content : Text) (ps : List Piece) (opened : List OpenBlock) : Prop :=
  ∃ left, Leaves (markersFrom 0 ps) left ∧
    opened.map OpenBlock.marked = left.map fun m => (m.token, .ofOffset content m.offset)

namespace Reached

variable {content rest : Text} {ps : List Piece} {opened : List OpenBlock}

theorem plain (body : Text) (h : Reached content ps opened) :
    Reached content (ps ++ [.plain body]) opened := by
  simpa [Reached, markersFrom_append, markersFrom] using h

theorem opening {tag : Tag} {inner : Text} (done : List Node)
    (hc : content = ps.flatMap Piece.source ++ rest) (h : Reached content ps opened) :
    Reached content (ps ++ [.marker (.opening tag inner)])
      (⟨tag, inner, Position.start.behind (ps.flatMap Piece.source), done⟩ :: opened) := by
  obtain ⟨left, hleaves, hmap⟩ := h
  refine ⟨⟨(ps.flatMap Piece.source).length, .opening tag inner⟩ :: left, ?_, ?_⟩
  · rw [markersFrom_append, Nat.zero_add]
    exact hleaves.opening rfl
  · rw [List.map_cons, List.map_cons, hmap, hc, Position.ofOffset_append]
    rfl

theorem closing {inner : Text} {b : OpenBlock} (h : Reached content ps (b :: opened)) :
    Reached content (ps ++ [.marker (.closing b.tag inner)]) opened := by
  obtain ⟨left, hleaves, hmap⟩ := h
  cases left with
  | nil => simp at hmap
  | cons m left =>
    simp only [List.map_cons, List.cons.injEq] at hmap
    refine ⟨left, ?_, hmap.2⟩
    have htag : Token.closing b.tag inner = .closing m.token.tag inner := by
      rw [← (Prod.mk.inj hmap.1).1]
      rfl
    rw [markersFrom_append, Nat.zero_add]
    exact hleaves.closing htag

theorem tags_eq (h : Reached content ps opened) :
    openTags [] (tokens (markersFrom 0 ps)) = some (opened.map OpenBlock.tag) := by
  obtain ⟨left, hleaves, hmap⟩ := h
  have htags := congrArg (List.map fun p => p.1.tag) hmap
  rw [hleaves.openTags_eq, Option.some.injEq]
  simpa [OpenBlock.marked, Token.tag, Function.comp_def] using htags.symm

end Reached

/-- Matching gets through the pieces of markers that can still become well nested, and knows the
open blocks behind them. -/
theorem matchMarkers_run {content rest : Text} {ps : List Piece}
    (hc : content = ps.flatMap Piece.source ++ rest)
    (hv : Viable (tokens (markersFrom 0 ps))) :
    ∃ done opened, Reached content ps opened ∧ ∀ more,
      matchMarkers .start [] [] (ps ++ more) =
        matchMarkers (Position.start.behind (ps.flatMap Piece.source)) done opened more := by
  induction ps using List.reverseRecOn generalizing rest with
  | nil => exact ⟨[], [], ⟨[], .nil .nil, rfl⟩, fun _ => rfl⟩
  | append_singleton ps p ih =>
    rw [List.flatMap_append, List.append_assoc] at hc
    have hpre : Viable (tokens (markersFrom 0 ps)) := by
      rw [markersFrom_append, tokens_append] at hv
      exact hv.of_append
    obtain ⟨done, opened, hreached, hrun⟩ := ih hc hpre
    have hbehind : ∀ q : Piece, Position.start.behind ((ps ++ [q]).flatMap Piece.source) =
        (Position.start.behind (ps.flatMap Piece.source)).behind q.source := by
      intro q
      simp [Position.behind_append]
    match p with
    | .plain body =>
      refine ⟨.plain body :: done, opened, hreached.plain body, fun more => ?_⟩
      rw [List.append_assoc, hrun, hbehind]
      rfl
    | .marker (.opening tag inner) =>
      refine ⟨[], _, hreached.opening done hc, fun more => ?_⟩
      rw [List.append_assoc, hrun, hbehind]
      rfl
    | .marker (.closing tag inner) =>
      rw [viable_iff, markersFrom_append, tokens_append, openTags_append, hreached.tags_eq] at hv
      cases opened with
      | nil => simp [markersFrom, tokens, openTags] at hv
      | cons b opened =>
        have htag : b.tag = tag := by
          simpa [markersFrom, tokens, openTags] using hv
        subst htag
        refine ⟨.block b.tag b.inner done.reverse inner :: b.before, opened, hreached.closing,
          fun more => ?_⟩
        rw [List.append_assoc, hrun, hbehind]
        simp [matchMarkers]

theorem parse_from {content : Text} {front back : List Piece}
    (hps : Piece.ofText content = front ++ back)
    (hv : Viable (tokens (markersFrom 0 front))) :
    ∃ done opened, Reached content front opened ∧ Node.parse content =
      matchMarkers (.ofOffset content (front.flatMap Piece.source).length) done opened back := by
  have hc : content = front.flatMap Piece.source ++ back.flatMap Piece.source := by
    rw [← List.flatMap_append, ← hps, Piece.flatMap_source_ofText]
  obtain ⟨done, opened, hreached, hrun⟩ := matchMarkers_run hc hv
  refine ⟨done, opened, hreached, ?_⟩
  rw [Node.parse, hps, hrun]
  congr 1
  rw [hc, Position.ofOffset_append]

/-! ## Verdicts -/

/-- Whether a template is refused with an error: that is all that checking and rendering report, and
the template stays as it is. -/
def Refused (content : Text) (e : TemplateError) : Prop :=
  Node.parse content = .error e ∧ templateErrors content = [e] ∧
    ∀ context, render content context = .ok ⟨content, false, 0, [], [e]⟩

theorem refused_of_parse {content : Text} {e : TemplateError} (h : Node.parse content = .error e) :
    Refused content e :=
  ⟨h, by simp [templateErrors, h], fun context => by simp [render, h]⟩

theorem parse_ok_iff (content : Text) :
    (∃ ns, Node.parse content = .ok ns) ↔ WellNested (tokens (markers content)) := by
  constructor
  · rintro ⟨ns, h⟩
    rw [markers, parse_eq_ok_iff.1 h]
    exact wellNested_forestPieces 0 ns
  · intro h
    have hv : Viable (tokens (markers content)) := ⟨[], by rwa [List.append_nil]⟩
    obtain ⟨done, opened, hreached, hparse⟩ := parse_from (List.append_nil _).symm hv
    have htags := hreached.tags_eq
    rw [← markers, h.openTags_eq, Option.some.injEq] at htags
    rw [List.map_eq_nil_iff.1 htags.symm] at hparse
    exact ⟨_, hparse⟩

/-- The error for a marker that nothing can follow up: there is no block to close, or the innermost
open one has another tag. -/
theorem refused_at {content : Text} {pre post : List Marker} {m : Marker}
    (hms : markers content = pre ++ m :: post) (hv : Viable (tokens pre))
    (hn : ¬Viable (tokens (pre ++ [m]))) :
    ∃ tag inner, m.token = .closing tag inner ∧
      ((WellNested (tokens pre) ∧
          Refused content (.unexpected tag (.ofOffset content m.offset))) ∨
        (¬WellNested (tokens pre) ∧ ∃ outer o inside b, pre = outer ++ o :: inside ∧
          WellNested (tokens inside) ∧ OpenBlock.marked b = (o.token, .ofOffset content o.offset) ∧
          b.tag ≠ tag ∧ Refused content (.mismatched tag (.ofOffset content m.offset) b))) := by
  obtain ⟨front, back, hps, rfl, hoffset⟩ := exists_split hms
  obtain ⟨done, opened, hreached, hparse⟩ := parse_from hps hv
  rw [Nat.zero_add] at hoffset
  rw [← hoffset] at hparse
  rw [viable_iff, tokens_append, openTags_append, hreached.tags_eq] at hn
  obtain ⟨left, hleaves, hmap⟩ := hreached
  cases htoken : m.token with
  | opening tag inner => simp [tokens, htoken, openTags] at hn
  | closing tag inner =>
    refine ⟨tag, inner, rfl, ?_⟩
    rw [htoken] at hparse
    cases opened with
    | nil =>
      left
      cases List.map_eq_nil_iff.1 hmap.symm
      exact ⟨hleaves.wellNested, refused_of_parse hparse⟩
    | cons b opened =>
      right
      have htag : b.tag ≠ tag := by
        simpa [tokens, htoken, openTags] using hn
      cases left with
      | nil => simp at hmap
      | cons o left =>
        simp only [List.map_cons, List.cons.injEq] at hmap
        obtain ⟨outer, inside, _, _, hpre, -, -, hinside⟩ := hleaves.innermost
        refine ⟨hleaves.not_wellNested, outer, o, inside, b, hpre, hinside, hmap.1, htag,
          refused_of_parse ?_⟩
        rw [hparse, matchMarkers, if_neg (by simpa using htag)]

/-- The error at the end of a template: the first opening marker that is never closed. -/
theorem refused_unclosed {content : Text} (hv : Viable (tokens (markers content)))
    (hn : ¬WellNested (tokens (markers content))) :
    ∃ outer o inside b, markers content = outer ++ o :: inside ∧ WellNested (tokens outer) ∧
      NeverClosed (tokens inside) ∧ OpenBlock.marked b = (o.token, .ofOffset content o.offset) ∧
      Refused content (.unclosed b) := by
  obtain ⟨done, opened, ⟨left, hleaves, hmap⟩, hparse⟩ := parse_from (List.append_nil _).symm hv
  rw [← markers] at hleaves
  have hlast := congrArg List.getLast? hmap
  rw [List.getLast?_map, List.getLast?_map] at hlast
  cases hleft : left.getLast? with
  | none =>
    rw [List.getLast?_eq_none_iff.1 hleft] at hleaves
    exact absurd hleaves.wellNested hn
  | some o =>
    obtain ⟨outer, inside, _, _, hms, -, houter, hinside⟩ := hleaves.outermost hleft
    rw [hleft, Option.map_some, Option.map_eq_some_iff] at hlast
    obtain ⟨b, hb, hmarked⟩ := hlast
    refine ⟨outer, o, inside, b, hms, houter, hinside.neverClosed, hmarked, refused_of_parse ?_⟩
    rw [hparse, matchMarkers, hb]

/-- A template is accepted exactly if its markers are well nested. Otherwise the first marker behind
which they cannot become so is blamed, or else the first one that is never closed. -/
theorem parse_verdict (content : Text) :
    ((∃ ns, Node.parse content = .ok ns) ↔ WellNested (tokens (markers content))) ∧
    (∀ pre m post, markers content = pre ++ m :: post → Viable (tokens pre) →
      ¬Viable (tokens (pre ++ [m])) → ∃ tag inner, m.token = .closing tag inner ∧
        ((WellNested (tokens pre) ∧
            Refused content (.unexpected tag (.ofOffset content m.offset))) ∨
          (¬WellNested (tokens pre) ∧ ∃ outer o inside b, pre = outer ++ o :: inside ∧
            WellNested (tokens inside) ∧
            OpenBlock.marked b = (o.token, .ofOffset content o.offset) ∧
            b.tag ≠ tag ∧ Refused content (.mismatched tag (.ofOffset content m.offset) b)))) ∧
    ((∀ pre post, markers content = pre ++ post → Viable (tokens pre)) →
      ¬WellNested (tokens (markers content)) → ∃ outer o inside b,
        markers content = outer ++ o :: inside ∧ WellNested (tokens outer) ∧
        NeverClosed (tokens inside) ∧ OpenBlock.marked b = (o.token, .ofOffset content o.offset) ∧
        Refused content (.unclosed b)) := by
  refine ⟨parse_ok_iff content, fun pre m post => refused_at, fun hv hn => ?_⟩
  exact refused_unclosed (hv _ [] (List.append_nil _).symm) hn

end Stencil
