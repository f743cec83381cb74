import Stencil.Yaml.Cursor

/-!
# Tokens

The signs and scalars of a document, with the starts and ends of collections that only the
indentation shows.
-/

namespace Stencil.Yaml

/-- How a scalar is written: as it stands, or between quotes of one of two kinds. -/
inductive Style where
  | plain
  | single
  | double
  deriving DecidableEq, Repr

/-- What a token is. A comment is one only until the next token takes it. -/
inductive TokenKind where
  | start
  | finish
  | documentStart
  | documentEnd
  | listStart
  | mappingStart
  | blockEnd
  | flowStart (isList : Bool)
  | flowEnd (isList : Bool)
  | comma
  | dash
  | key
  | value
  | scalar (style : Style) (content : Text)
  | comment (body : Text)
  deriving DecidableEq, Repr

/-- A token, the places where it starts and ends, and its comments. -/
structure Token where
  kind : TokenKind
  start : Mark
  stop : Mark
  comments : Option Comments
  deriving DecidableEq, Repr

namespace Token

/-- A token without comments that takes no room. -/
def mark (kind : TokenKind) (m : Mark) : Token := ⟨kind, m, m, none⟩

def isScalar (t : Token) : Bool :=
  match t.kind with
  | .scalar .. => true
  | _ => false

/-- Whether a comment that starts on the line of this token's end stands behind it. -/
def takesComment (t : Token) : Bool :=
  match t.kind with
  | .scalar .. | .value | .flowEnd _ => true
  | _ => false

/-- The comment that a token is, if it is one. -/
def comment? (t : Token) : Option Comment :=
  match t.kind with
  | .comment body => some ⟨body, t.start.line, t.start.column⟩
  | _ => none

def putBehind (c : Comment) (t : Token) : Token :=
  { t with comments := some (Comments.putBehind c t.comments) }

def putBefore (cs : List Comment) (t : Token) : Token :=
  { t with comments := some (Comments.putBefore cs t.comments) }

end Token

end Stencil.Yaml
