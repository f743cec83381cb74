import Stencil.Text.Digit
import Stencil.Text.Quoted

/-!
# Comments

A comment belongs to a token: it stands behind it on its line, or on the lines in front of it.
Empty lines count as comments too, for they are written again like them.
-/

namespace Stencil.Yaml

/-- A comment with the line ends behind it, and where it starts. -/
structure Comment where
  body : Text
  line : Nat
  column : Nat
  deriving DecidableEq, Repr

def Comment.shown (c : Comment) : Text :=
  text "CommentToken(" ++ Text.quoted c.body ++ text ", line: " ++ Text.ofNat c.line ++
    text ", col: " ++ Text.ofNat c.column ++ text ")"

/-- The comments of a token: one behind it, and those in front of it. If they have been passed on
by a key to what may be its value, `passed` keeps the one that stood behind the key. -/
structure Comments where
  behind : Option Comment
  before : List Comment
  passed : Option (Option Comment)
  deriving DecidableEq, Repr

namespace Comments

def ofBehind (c : Comment) : Comments := ⟨some c, [], none⟩

def ofBefore (cs : List Comment) : Comments := ⟨none, cs, none⟩

/-- A comment that may be missing, as messages show it. -/
def shownOption (c : Option Comment) : Text := (c.map Comment.shown).getD (text "None")

def shown (c : Comments) : Text :=
  let before := if c.before.isEmpty then text "None"
    else [chr '['] ++ Text.join (text ", ") (c.before.map Comment.shown) ++ [chr ']']
  let passed := match c.passed with
    | none => []
    | some last => text ", None, None, " ++ shownOption last
  [chr '['] ++ shownOption c.behind ++ text ", " ++ before ++ passed ++ [chr ']']

/-- Puts a comment behind a token, in place of the one that may be there. -/
def putBehind (comment : Comment) : Option Comments → Comments
  | none => ofBehind comment
  | some c => { c with behind := some comment }

def putBefore (comments : List Comment) : Option Comments → Comments
  | none => ofBefore comments
  | some c => { c with before := comments }

/-- The comments of a key that pass on to its value. -/
def passOn (c : Comments) : Comments := { c with passed := some c.behind }

/-- Whether two tokens have comments at the same place, so that they cannot be joined. -/
def overlap (a b : Comments) : Bool :=
  a.behind.isSome && b.behind.isSome || !a.before.isEmpty && !b.before.isEmpty

/-- The comments of one token joined to those of the next. -/
def join (a b : Comments) : Comments :=
  { b with
    behind := a.behind.or b.behind
    before := if a.before.isEmpty then b.before else a.before }

end Comments

end Stencil.Yaml
