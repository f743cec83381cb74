import Stencil.Conversion
import Stencil.Text.Utf8
import Stencil.Yaml.Comment
import Stencil.YamlLibrary

/-!
# Faults

Why a document cannot be read. Nearly always it breaks the rules of the format; the other causes
have messages of their own.
-/

namespace Stencil.Yaml

/-- What a document is read for: its values alone, or to be written again, comments and all. -/
inductive Purpose where
  | values
  | rewriting
  deriving DecidableEq, Repr

inductive Fault where
  | malformed
  /-- Its bytes are no text. -/
  | undecodable (fault : Utf8.Fault)
  /-- An escape writes a code that no character has. -/
  | noCharacter (code : Nat)
  /-- A scalar looks like a number and is none, or it is one and cannot be written. -/
  | number (e : ConversionError)
  /-- A scalar looks like a number of which only the mark of the radix or the sign is there. -/
  | unfinishedNumber
  /-- Two neighbours both have comments at a place where only one can be written again. -/
  | overlap (first second : Comments)
  /-- A list or a mapping stands inside a key. -/
  | nestedKey (purpose : Purpose) (isList : Bool)
  deriving DecidableEq, Repr

namespace Fault

/-- The greatest code that a machine integer holds. -/
def maxCode : Nat := 0x7FFFFFFF

/-- What a collection inside a key is called. -/
def collectionName : (purpose : Purpose) → (isList : Bool) → Text
  | .values, true => text "list"
  | .values, false => text "dict"
  | .rewriting, true => text "CommentedSeq"
  | .rewriting, false => text "CommentedMap"

def message : Fault → Text
  | malformed => text "Malformed document"
  | undecodable fault => fault.message
  | noCharacter code =>
    if maxCode < code then text "Python int too large to convert to C int"
    else text "chr() arg not in range(0x110000)"
  | number e => e.message
  | unfinishedNumber => text "string index out of range"
  | overlap first second =>
    text "overlap in comment " ++ first.shown ++ [chr ' '] ++ second.shown
  | nestedKey purpose isList =>
    text "unhashable type: '" ++ collectionName purpose isList ++ text "'"

def kind : Fault → String
  | malformed => "YAMLError"
  | undecodable _ => "UnicodeDecodeError"
  | noCharacter code => if maxCode < code then "OverflowError" else "ValueError"
  | number e => e.kind
  | unfinishedNumber => "IndexError"
  | overlap _ _ => "NotImplementedError"
  | nestedKey _ _ => "TypeError"

def shown : Fault → YamlFault
  | malformed => .malformed malformed.message
  | undecodable fault => .undecodable fault
  | fault => .other fault.kind fault.message

end Fault

end Stencil.Yaml
