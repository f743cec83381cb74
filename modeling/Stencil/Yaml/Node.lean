import Stencil.Value
import Stencil.Yaml.Token

/-!
# Nodes

A document as it is written: scalars with their style, lists and mappings with theirs, and the
comments of each.
-/

namespace Stencil.Yaml

/-- A node of a document. A collection stands in brackets or shows by its indentation; `ending`
are the comments behind its last item. A fresh scalar has a value but no style yet. -/
inductive Node where
  | scalar (style : Style) (content : Text) (comments : Option Comments)
  | list (inBrackets : Bool) (items : List Node) (comments : Option Comments)
      (ending : List Comment)
  | mapping (inBrackets : Bool) (entries : List (Node × Node)) (comments : Option Comments)
      (ending : List Comment)
  | fresh (value : Value) (comments : Option Comments)

namespace Node

/-- A scalar that is not there. -/
def missing (comments : Option Comments) : Node := .scalar .plain [] comments

def comments : Node → Option Comments
  | scalar _ _ comments => comments
  | list _ _ comments _ => comments
  | mapping _ _ comments _ => comments
  | fresh _ comments => comments

def withComments (comments : Option Comments) : Node → Node
  | scalar style content _ => scalar style content comments
  | list inBrackets items _ ending => list inBrackets items comments ending
  | mapping inBrackets entries _ ending => mapping inBrackets entries comments ending
  | fresh value _ => fresh value comments

/-- The comments with which a collection ends: those that the token behind its last item has in
front of it. They are lost if the collection has taken over the comments of a key. -/
def endingOf (comments : Option Comments) (ending : List Comment) : List Comment :=
  if comments.any (·.passed.isSome) then [] else ending

/-! ## Values -/

mutual

/-- A node for a value. Collections show by their indentation, but for empty lists. -/
def ofValue : Value → Node
  | .list items => list items.isEmpty (ofValues items) none []
  | .object fields => mapping false (ofFields fields) none []
  | v => fresh v none

def ofValues : List Value → List Node
  | [] => []
  | v :: vs => ofValue v :: ofValues vs

def ofFields : List (Text × Value) → List (Node × Node)
  | [] => []
  | (key, v) :: fields => (fresh (.str key) none, ofValue v) :: ofFields fields

end

mutual

/-- Why a node cannot be written, if it cannot: it has an integer that is too long. -/
def writeFault? : Node → Option ConversionError
  | scalar .. => none
  | list _ items _ _ => itemsFault? items
  | mapping _ entries _ _ => entriesFault? entries
  | fresh v _ => v.textFault?

def itemsFault? : List Node → Option ConversionError
  | [] => none
  | item :: items => (writeFault? item).or (itemsFault? items)

def entriesFault? : List (Node × Node) → Option ConversionError
  | [] => none
  | (key, value) :: entries =>
    (writeFault? key).or ((writeFault? value).or (entriesFault? entries))

end

end Node

end Stencil.Yaml
