import Stencil.Template.Node
import Stencil.Text.Digit

/-!
# Balanced templates

Markers are matched with a stack: an opening one waits on it for the closing one of its tag. The
first marker that cannot be matched is the error.
-/

namespace Stencil

/-- A block that is open: its marker, where that stands, and the nodes in front of it, the last
one first. -/
structure OpenBlock where
  tag : Tag
  inner : Text
  position : Position
  before : List Node

def OpenBlock.shown (b : OpenBlock) : Text :=
  let argument := Text.trim b.inner
  openBraces ++ [chr '#'] ++ b.tag.name ++
    (if argument.isEmpty then [] else chr ' ' :: argument) ++ closeBraces

/-! ## Errors -/

/-- Why a template is not balanced, with the place that is to blame. -/
inductive TemplateError where
  /-- A closing marker without an open block. -/
  | unexpected (tag : Tag) (position : Position)
  /-- A closing marker of another tag than the innermost open block. -/
  | mismatched (tag : Tag) (position : Position) (innermost : OpenBlock)
  /-- Blocks that stay open; the outermost is named. -/
  | unclosed (outermost : OpenBlock)

namespace TemplateError

/-- The place of the marker that is to blame. -/
def position : TemplateError → Position
  | unexpected _ p => p
  | mismatched _ p _ => p
  | unclosed b => b.position

def shownClosing (tag : Tag) : Text :=
  openBraces ++ [chr '/'] ++ tag.name ++ closeBraces

def place (p : Position) : Text :=
  text "line " ++ Text.ofNat p.line ++ text ", column " ++ Text.ofNat p.column

def message : TemplateError → Text
  | unexpected tag p => text "Unexpected " ++ shownClosing tag ++ text " at " ++ place p
  | mismatched tag p b =>
    text "Mismatched " ++ shownClosing tag ++ text " at " ++ place p ++ text ": expected " ++
      shownClosing b.tag ++ text " to close " ++ b.shown ++ text " opened at " ++ place b.position
  | unclosed b => text "Unclosed " ++ b.shown ++ text " opened at " ++ place b.position

end TemplateError

/-! ## Matching -/

/-- Matches the markers of pieces that start at `p`. `done` holds the finished nodes of the
innermost open block, the last one first, and `opened` the open blocks from the innermost out. -/
def matchMarkers (p : Position) (done : List Node) (opened : List OpenBlock) :
    List Piece → Except TemplateError (List Node)
  | [] =>
    match opened.getLast? with
    | none => .ok done.reverse
    | some outermost => .error (.unclosed outermost)
  | piece :: pieces =>
    let after := p.behind piece.source
    match piece with
    | .plain body => matchMarkers after (.plain body :: done) opened pieces
    | .marker (.opening tag inner) => matchMarkers after [] (⟨tag, inner, p, done⟩ :: opened) pieces
    | .marker (.closing tag inner) =>
      match opened with
      | [] => .error (.unexpected tag p)
      | b :: opened =>
        if b.tag == tag then
          matchMarkers after (.block tag b.inner done.reverse inner :: b.before) opened pieces
        else .error (.mismatched tag p b)

def Node.parse (template : Text) : Except TemplateError (List Node) :=
  matchMarkers .start [] [] (Piece.ofText template)

end Stencil
