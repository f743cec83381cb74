import Stencil.Proofs.Template.Forest

/-!
# Printed forests

A sketch is what a template says when its spelling is left out. Printed in the plainest spelling,
a forest of sketches is read back as it was: no text absorbs or forges a marker next to it.
-/

namespace Stencil

/-- A text, or a block with what its opening marker asks for. -/
inductive Sketch where
  | plain (body : Text)
  | block (tag : Tag) (argument : Text) (children : List Sketch)

namespace Sketch

def isPlain : Sketch → Bool
  | plain _ => true
  | block .. => false

/-- An argument behind its tag, one space away. -/
def spelled (argument : Text) : Text :=
  if argument.isEmpty then [] else ' ' :: argument

mutual

def print : Sketch → Text
  | plain body => body
  | block tag argument children =>
    (Token.opening tag (spelled argument)).source ++ prints children ++
      (Token.closing tag []).source

def prints : List Sketch → Text
  | [] => []
  | s :: ss => print s ++ prints ss

end

mutual

/-- Whether a template can say it: texts are not empty and hold no marker, arguments are trimmed
and hold no brace. -/
def Valid : Sketch → Prop
  | plain body => body ≠ [] ∧ ¬HoldsToken body
  | block _ argument children =>
    Braceless argument ∧ Text.trim argument = argument ∧ ValidForest children

/-- Whether a template can say all of them, which it cannot if two texts stand side by side. -/
def ValidForest : List Sketch → Prop
  | [] => True
  | s :: ss => Valid s ∧ ¬(s.isPlain ∧ ss.head?.any isPlain) ∧ ValidForest ss

end

end Sketch

/-! ## What an outline shows -/

namespace Outline

open Node (Outline)

mutual

/-- Whether an outline shows a sketch: the same kind, argument, body and children. -/
def Shows : Outline → Sketch → Prop
  | .plain _ _ _ body, .plain text => body = text
  | .block tag _ _ _ argument body children, .block tag' argument' sketches =>
    tag = tag' ∧ argument = argument' ∧ body = Sketch.prints sketches ∧
      ShowsForest children sketches
  | _, _ => False

def ShowsForest : List Outline → List Sketch → Prop
  | [], [] => True
  | o :: os, s :: ss => Shows o s ∧ ShowsForest os ss
  | _, _ => False

end

end Outline

/-! ## The nodes of a sketch -/

namespace Sketch

mutual

def node : Sketch → Node
  | plain body => .plain body
  | block tag argument children => .block tag (spelled argument) (nodes children) []

def nodes : List Sketch → List Node
  | [] => []
  | s :: ss => node s :: nodes ss

end

mutual

theorem source_node : (s : Sketch) → (node s).source = print s
  | plain _ => rfl
  | block tag argument children => by
    rw [node, Node.source, print, sources_nodes children]

theorem sources_nodes : (ss : List Sketch) → Node.sources (nodes ss) = prints ss
  | [] => rfl
  | s :: ss => by
    rw [nodes, Node.sources, prints, source_node s, sources_nodes ss]

end

theorem isInner_spelled {argument : Text} (h : Braceless argument) :
    IsInner (spelled argument) := by
  unfold spelled
  split
  · exact isInner_nil
  · exact isInner_space h

theorem trim_spelled {argument : Text} (h : Text.trim argument = argument) :
    Text.trim (spelled argument) = argument := by
  unfold spelled
  split
  · rename_i hempty
    rw [List.isEmpty_iff.1 hempty]
    rfl
  · rw [Text.trim_space, h]

theorem startsPlain_nodes {ss : List Sketch} {more : List Piece} (h : ¬ss.head?.any isPlain)
    (hm : Piece.startsPlain more = false) :
    Piece.startsPlain (Node.forestPieces (nodes ss) ++ more) = false := by
  match ss with
  | [] => exact hm
  | plain _ :: _ => simp [isPlain] at h
  | block .. :: _ => rfl

mutual

theorem normal_node {more : List Piece} (hmore : Piece.Normal more) :
    (s : Sketch) → Valid s → (s.isPlain → Piece.startsPlain more = false) →
      Piece.Normal ((node s).pieces ++ more)
  | plain body, h, hm => by
    simp only [Valid] at h
    exact .plain h.1 h.2 (hm rfl) hmore
  | block tag argument children, h, _ => by
    simp only [Valid] at h
    have hclosing : Piece.Normal (.marker (.closing tag []) :: more) :=
      .marker isInner_nil hmore
    have hinside := normal_nodes hclosing rfl children h.2.2
    have hopening : (Token.opening tag (spelled argument)).WellFormed := isInner_spelled h.1
    simpa [node, Node.pieces] using Piece.Normal.marker hopening hinside

theorem normal_nodes {more : List Piece} (hmore : Piece.Normal more)
    (hm : Piece.startsPlain more = false) :
    (ss : List Sketch) → ValidForest ss →
      Piece.Normal (Node.forestPieces (nodes ss) ++ more)
  | [], _ => hmore
  | s :: ss, h => by
    simp only [ValidForest] at h
    have hrest := normal_nodes hmore hm ss h.2.2
    rw [nodes, Node.forestPieces, List.append_assoc]
    exact normal_node hrest s h.1 fun hs => startsPlain_nodes (fun ha => h.2.1 ⟨hs, ha⟩) hm

end

theorem parse_prints_eq {ss : List Sketch} (h : ValidForest ss) :
    Node.parse (prints ss) = .ok (nodes ss) := by
  have hnormal := normal_nodes .nil rfl ss h
  rw [List.append_nil] at hnormal
  refine parse_eq_ok_iff.2 (Piece.ofText_eq_iff.2 ⟨hnormal, ?_⟩)
  rw [Node.flatMap_source_forestPieces, sources_nodes]

mutual

theorem shows_node (start line : Nat) :
    (s : Sketch) → Valid s → Outline.Shows (Node.outline start line (node s)) s
  | plain _, _ => rfl
  | block tag argument children, h => by
    simp only [Valid] at h
    exact ⟨rfl, trim_spelled h.2.1, sources_nodes children, shows_nodes _ _ children h.2.2⟩

theorem shows_nodes (start line : Nat) :
    (ss : List Sketch) → ValidForest ss →
      Outline.ShowsForest (Node.outlines start line (nodes ss)) ss
  | [], _ => trivial
  | s :: ss, h => by
    simp only [ValidForest] at h
    exact ⟨shows_node start line s h.1, shows_nodes _ _ ss h.2.2⟩

end

/-- Reading undoes printing: a valid forest comes back with the same kinds, arguments, bodies and
children at every depth. -/
theorem parse_prints (ss : List Sketch) (h : ValidForest ss) :
    ∃ ns, Node.parse (prints ss) = .ok ns ∧
      Outline.ShowsForest (Node.outlines 0 1 ns) ss :=
  ⟨nodes ss, parse_prints_eq h, shows_nodes 0 1 ss h⟩

/-- Lone braces and the start of a marker in front of real markers. -/
def brittle : List Sketch :=
  [.plain (text "\x7b\x7b\x7b#if x"),
   .block .when (text "a == 1") [.plain (text "\x7d\x7d \x7b\x7b/"), .block .each (text "b") []],
   .block .region [] [.plain (text "\x7b")]]

theorem parse_prints_brittle :
    ValidForest brittle ∧ ∃ ns, Node.parse (prints brittle) = .ok ns ∧
      Outline.ShowsForest (Node.outlines 0 1 ns) brittle := by
  have hvalid : ValidForest brittle := by
    simp only [brittle, ValidForest, Valid]
    decide
  exact ⟨hvalid, parse_prints brittle hvalid⟩

end Sketch

end Stencil
