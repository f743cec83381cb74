import Stencil.Template.Token
import Stencil.Text.Position

/-!
# Nodes

A template that is balanced is a forest of nodes: text, and blocks around further nodes. A node
keeps its source, and an outline adds where each node stands.
-/

namespace Stencil

/-- Text without block markers, or a block with what stands inside its two markers. -/
inductive Node where
  | plain (body : Text)
  | block (tag : Tag) (inner : Text) (children : List Node) (closing : Text)
  deriving Inhabited, BEq

namespace Node

mutual

/-- The part of the template that the node was read from. -/
def source : Node → Text
  | plain body => body
  | block tag inner children closing =>
    (Token.opening tag inner).source ++ sources children ++ (Token.closing tag closing).source

/-- The part of the template that nodes side by side were read from. -/
def sources : List Node → Text
  | [] => []
  | node :: nodes => source node ++ sources nodes

end

def isBlock : Node → Bool
  | plain _ => false
  | block .. => true

/-! ## Outlines -/

/-- A node with its place: offsets of its two ends and the line of its start. -/
inductive Outline where
  | plain (start stop line : Nat) (body : Text)
  | block (tag : Tag) (start stop line : Nat) (argument body : Text) (children : List Outline)

namespace Outline

/-- Whether the outline is that of a block. -/
def isBlock : Outline → Bool
  | plain .. => false
  | block .. => true

end Outline

mutual

/-- The outline of a node that starts at an offset and a line. -/
def outline (start line : Nat) : Node → Outline
  | plain body => .plain start (start + body.length) line body
  | block tag inner children closing =>
    let opener := (Token.opening tag inner).source
    let size := (source (block tag inner children closing)).length
    .block tag start (start + size) line (Text.trim inner) (sources children)
      (outlines (start + opener.length) (line + opener.count (chr '\n')) children)

/-- The outlines of nodes that stand side by side. -/
def outlines (start line : Nat) : List Node → List Outline
  | [] => []
  | node :: nodes =>
    outline start line node ::
      outlines (start + (source node).length) (line + (source node).count (chr '\n')) nodes

end

end Node

end Stencil
