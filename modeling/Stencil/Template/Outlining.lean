import Stencil.Template.Parsing

/-!
# Outlines of templates

The outlines of a template are made while its markers are matched. A block that is open keeps the
offsets of its marker, and what stands between two offsets is cut out of the template.
-/

namespace Stencil.Node.Outline

/-- A block that is open: its tag and argument, the offsets of the two ends of its marker, the line
of that, and the outlines in front of it, the last one first. -/
structure Frame where
  tag : Tag
  argument : Text
  start : Nat
  bodyStart : Nat
  line : Nat
  before : List Outline

/-- Matches the markers of pieces that start at an offset and a line of a template. `done` holds the
outlines in the innermost open block, the last one first. -/
def matchMarkers (template : Text) (offset line : Nat) (done : List Outline)
    (opened : List Frame) : List Piece → Option (List Outline)
  | [] => if opened.isEmpty then some done.reverse else none
  | piece :: pieces =>
    let stop := offset + piece.source.length
    let below := line + piece.source.count (chr '\n')
    match piece with
    | .plain _ =>
      matchMarkers template stop below
        (.plain offset stop line (template.slice offset stop) :: done) opened pieces
    | .marker (.opening tag inner) =>
      matchMarkers template stop below []
        (⟨tag, Text.trim inner, offset, stop, line, done⟩ :: opened) pieces
    | .marker (.closing tag _) =>
      match opened with
      | [] => none
      | f :: opened =>
        if f.tag == tag then
          matchMarkers template stop below
            (.block tag f.start stop f.line f.argument (template.slice f.bodyStart offset)
              done.reverse :: f.before) opened pieces
        else none

/-- The outlines of a template, if it is balanced. -/
def parse? (template : Text) : Option (List Outline) :=
  matchMarkers template 0 1 [] [] (Piece.ofText template)

end Stencil.Node.Outline
