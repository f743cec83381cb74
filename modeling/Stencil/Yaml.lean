import Stencil.Yaml.Datum.Building
import Stencil.Yaml.Node.Reading
import Stencil.Yaml.Node.Writing
import Stencil.Yaml.Source

/-!
# Documents

A text holds one document, maybe between the markers `---` and `...`. It is read for its value
alone, or kept, so that fields of it can be set while the rest of it stays as it is.
-/

namespace Stencil.Yaml

/-- The value that a text writes; nothing at all is null. -/
def readValue (s : Text) : Except Fault Value := do
  let source ← Source.ofText s
  match ← Node.ofText? .values source.content source.cut? with
  | none => return .null
  | some root => return (← Datum.ofNode .values root).toValue

/-- A document that is kept, with what it holds. -/
structure Document where
  root : Option Node
  tree : YamlTree

namespace Document

def empty : Document := ⟨none, .mapping []⟩

/-- The document in the bytes of a file. -/
def ofBytes (bytes : Bytes) : Except Fault Document := do
  let source ← Source.ofBytes bytes
  let root ← Node.ofText? .rewriting source.content source.cut?
  match root with
  | none => return ⟨none, .null⟩
  | some node => return ⟨root, (← Datum.ofNode .rewriting node).toTree⟩

def update (d : Document) (fields : Fields) : Document where
  root := some (Node.storeFields fields d.root)
  tree :=
    match Datum.ofNode .rewriting (Node.storeFields fields d.root) with
    | .ok datum => datum.toTree
    | .error _ => d.tree

/-- The bytes of the document, unless a number in it cannot be written. What is no character stands
in it by its escape. -/
def toBytes (d : Document) : Except Fault Bytes :=
  match d.root with
  | none => .ok (Utf8.ofText (text "\x7b\x7d\n"))
  | some root =>
    match root.writeFault? with
    | some e => .error (.number e)
    | none => .ok (Utf8.ofText root.toText)

end Document

/-- The reader and the writer as a library. -/
def library : YamlLibrary where
  Document := Document
  tree := Document.tree
  empty := .empty
  load bytes := (Document.ofBytes bytes).mapError Fault.shown
  update := Document.update
  dump d := d.toBytes.mapError Fault.shown
  readValue s := (readValue s).mapError Fault.shown

end Stencil.Yaml
