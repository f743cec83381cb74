import Stencil.Text.Utf8
import Stencil.YamlTree

/-!
# The library for documents

Settings are kept in YAML documents, which a library reads and writes. Here is what is asked of it;
how it reads a text and what it writes is its own affair.
-/

namespace Stencil

/-- Why the library stops. -/
inductive YamlFault where
  /-- Its own complaint about a document. -/
  | malformed (message : Text)
  /-- The file that it reads is no text. -/
  | undecodable (fault : Utf8.Fault)
  /-- Whatever else goes wrong inside of it. -/
  | other (kind : String) (message : Text)
  deriving DecidableEq, Repr

namespace YamlFault

def message : YamlFault → Text
  | malformed message => message
  | undecodable fault => fault.message
  | other _ message => message

end YamlFault

/-- A library for documents. A document that was read is kept as it is written, comments and all, so
that fields of it can be set and the rest stays. -/
structure YamlLibrary where
  Document : Type
  /-- What a document holds. -/
  tree : Document → YamlTree
  /-- A document with an empty mapping. -/
  empty : Document
  /-- Reads a file, which is decoded on the way. -/
  load : Bytes → Except YamlFault Document
  /-- Sets fields of a document that is a mapping. -/
  update : Document → Fields → Document
  /-- The bytes that a document is written as. -/
  dump : Document → Except YamlFault Bytes
  /-- Reads a text for its value alone. -/
  readValue : Text → Except YamlFault Value

end Stencil
