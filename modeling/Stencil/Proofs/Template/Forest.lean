import Stencil.Proofs.Template.Pieces
import Stencil.Template.Parsing

/-!
# Forests and their pieces

Nodes flatten into the pieces that they were read from. Reading a template gives some nodes exactly
if the pieces of the template are those of the nodes, so accepted templates can be taken apart and
put together at their markers.
-/

namespace Stencil

namespace Node

mutual

def pieces : Node → List Piece
  | plain body => [.plain body]
  | block tag inner children closing =>
    .marker (.opening tag inner) :: (forestPieces children ++ [.marker (.closing tag closing)])

def forestPieces : List Node → List Piece
  | [] => []
  | node :: nodes => pieces node ++ forestPieces nodes

end

theorem forestPieces_append (ns ms : List Node) :
    forestPieces (ns ++ ms) = forestPieces ns ++ forestPieces ms := by
  induction ns with
  | nil => rfl
  | cons n ns ih => simp [forestPieces, ih]

theorem forestPieces_singleton (n : Node) : forestPieces [n] = pieces n := by
  simp [forestPieces]

mutual

theorem flatMap_source_pieces : (n : Node) → (pieces n).flatMap Piece.source = source n
  | plain body => by simp [pieces, source, Piece.source]
  | block tag inner children closing => by
    simp [pieces, source, Piece.source, flatMap_source_forestPieces children]

theorem flatMap_source_forestPieces :
    (ns : List Node) → (forestPieces ns).flatMap Piece.source = sources ns
  | [] => rfl
  | n :: ns => by
    simp [forestPieces, sources, flatMap_source_pieces n, flatMap_source_forestPieces ns]

end

end Node

/-! ## Reading pieces back -/

theorem Position.behind_append (p : Position) (s t : Text) :
    p.behind (s ++ t) = (p.behind s).behind t := by
  simp [behind]

mutual

/-- The pieces of one node add it to the finished nodes, whatever is open and whatever follows. -/
theorem matchMarkers_pieces (p : Position) (done : List Node) (opened : List OpenBlock)
    (more : List Piece) : (n : Node) →
    matchMarkers p done opened (n.pieces ++ more) =
      matchMarkers (p.behind n.source) (n :: done) opened more
  | .plain body => by
    simp [Node.pieces, Node.source, matchMarkers, Piece.source]
  | .block tag inner children closing => by
    have hinside := matchMarkers_forestPieces (p.behind (Token.opening tag inner).source) []
      (⟨tag, inner, p, done⟩ :: opened) (.marker (.closing tag closing) :: more) children
    simp only [Node.pieces, List.cons_append, List.append_assoc, List.nil_append, matchMarkers,
      Piece.source, hinside, List.append_nil, List.reverse_reverse, beq_self_eq_true, if_true,
      Node.source, Position.behind_append]

theorem matchMarkers_forestPieces (p : Position) (done : List Node) (opened : List OpenBlock)
    (more : List Piece) : (ns : List Node) →
    matchMarkers p done opened (Node.forestPieces ns ++ more) =
      matchMarkers (p.behind (Node.sources ns)) (ns.reverse ++ done) opened more
  | [] => by simp [Node.forestPieces, Node.sources, Position.behind]
  | n :: ns => by
    rw [Node.forestPieces, List.append_assoc, matchMarkers_pieces p done opened _ n,
      matchMarkers_forestPieces _ (n :: done) opened more ns, Node.sources,
      Position.behind_append]
    simp

end

/-- The pieces that led to some finished nodes behind some open blocks. -/
def openPieces (done : List Node) : List OpenBlock → List Piece
  | [] => Node.forestPieces done.reverse
  | b :: opened =>
    openPieces b.before opened ++ .marker (.opening b.tag b.inner) ::
      Node.forestPieces done.reverse

theorem openPieces_cons (n : Node) (done : List Node) (opened : List OpenBlock) :
    openPieces (n :: done) opened = openPieces done opened ++ n.pieces := by
  cases opened <;>
    simp [openPieces, Node.forestPieces_append, Node.forestPieces_singleton]

/-- Nothing is lost on the way: what was matched and what is to be matched make the result. -/
theorem forestPieces_of_matchMarkers {p : Position} {done : List Node} {opened : List OpenBlock}
    {ps : List Piece} {ns : List Node} (h : matchMarkers p done opened ps = .ok ns) :
    Node.forestPieces ns = openPieces done opened ++ ps := by
  fun_induction matchMarkers p done opened ps with
  | case1 p done opened hlast =>
    cases h
    rw [List.getLast?_eq_none_iff.1 hlast, openPieces, List.append_nil]
  | case2 => cases h
  | case3 p done opened pieces body after ih =>
    rw [ih h, openPieces_cons]
    simp [Node.pieces]
  | case4 p done opened pieces tag inner after ih =>
    rw [ih h]
    simp [openPieces, Node.forestPieces]
  | case5 => cases h
  | case6 p done pieces tag inner b opened htag after ih =>
    rw [ih h, openPieces_cons, openPieces, Node.pieces, eq_of_beq htag]
    simp
  | case7 => cases h

theorem parse_eq_ok_iff {s : Text} {ns : List Node} :
    Node.parse s = .ok ns ↔ Piece.ofText s = Node.forestPieces ns := by
  constructor
  · intro h
    exact (forestPieces_of_matchMarkers h).symm
  · intro h
    have hrun := matchMarkers_forestPieces .start [] [] [] ns
    rw [List.append_nil, ← h] at hrun
    simpa [Node.parse, matchMarkers] using hrun

theorem sources_of_parse {s : Text} {ns : List Node} (h : Node.parse s = .ok ns) :
    Node.sources ns = s := by
  rw [← Node.flatMap_source_forestPieces, ← parse_eq_ok_iff.1 h, Piece.flatMap_source_ofText]

theorem parse_of_not_holdsToken {s : Text} (hne : s ≠ []) (h : ¬HoldsToken s) :
    Node.parse s = .ok [.plain s] := by
  rw [parse_eq_ok_iff, Piece.ofText_eq_iff, Node.flatMap_source_forestPieces]
  exact ⟨.plain hne h rfl .nil, List.append_nil s⟩

theorem parse_nil : Node.parse [] = .ok [] := by
  rw [parse_eq_ok_iff, Piece.ofText]
  rfl

theorem exists_parse_of_not_holdsToken {s : Text} (h : ¬HoldsToken s) :
    ∃ ns, Node.parse s = .ok ns ∧ ∀ n ∈ ns, n.isBlock = false := by
  cases s with
  | nil => exact ⟨[], parse_nil, List.forall_mem_nil _⟩
  | cons c s =>
    refine ⟨_, parse_of_not_holdsToken (List.cons_ne_nil c s) h, ?_⟩
    exact List.forall_mem_singleton.2 rfl

theorem parse_block_between {a b c : Text} {as bs cs : List Node} {tag : Tag}
    {inner closing : Text} (ha : Node.parse a = .ok as) (hb : Node.parse b = .ok bs)
    (hc : Node.parse c = .ok cs) (hi : IsInner inner) (hj : IsInner closing) :
    Node.parse (a ++ (Token.opening tag inner).source ++ b ++ (Token.closing tag closing).source ++
      c) = .ok (as ++ .block tag inner bs closing :: cs) := by
  rw [parse_eq_ok_iff] at ha hb hc ⊢
  have hopening : (Token.opening tag inner).WellFormed := hi
  have hclosing : (Token.closing tag closing).WellFormed := hj
  rw [Piece.ofText_append_source hclosing, Piece.ofText_append_source hopening, ha, hb, hc]
  simp [Node.forestPieces_append, Node.forestPieces, Node.pieces]

end Stencil
