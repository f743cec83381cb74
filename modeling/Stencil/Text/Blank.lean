import Stencil.CodePoint

/-!
# Texts and blanks

A text is a list of code points, so every length, offset and column counts code points. Blanks are
the white space of every script; `trim` takes them off both ends.
-/

namespace Stencil

/-- A text, as the list of its code points. -/
abbrev Text := List CodePoint

/-- The text of a literal. -/
abbrev text (s : String) : Text := s.toList.map chr

namespace Text

/-- White space of every script, the line and file separators of ASCII included. -/
def isBlank (c : CodePoint) : Bool :=
  let n := c.toNat
  (9 ≤ n && n ≤ 13) || (28 ≤ n && n ≤ 32) || n == 0x85 || n == 0xA0 || n == 0x1680 ||
    (0x2000 ≤ n && n ≤ 0x200A) || n == 0x2028 || n == 0x2029 || n == 0x202F || n == 0x205F ||
    n == 0x3000

/-- The text without the blanks at its front. -/
def trimStart (s : Text) : Text := s.dropWhile isBlank

/-- The text without the blanks at its back. -/
def trimEnd (s : Text) : Text := (s.reverse.dropWhile isBlank).reverse

/-- The text without the blanks at its two ends. -/
def trim (s : Text) : Text := trimEnd (trimStart s)

/-- The text in front of the first `sep` and the text behind it. -/
def cut? (sep : CodePoint) (s : Text) : Option (Text × Text) :=
  match s.dropWhile (· != sep) with
  | [] => none
  | _ :: rest => some (s.takeWhile (· != sep), rest)

/-- The pieces between the occurrences of `sep`; a text without one is its only piece. -/
def splitOn (sep : CodePoint) : Text → List Text
  | [] => [[]]
  | c :: cs =>
    if c == sep then [] :: splitOn sep cs
    else match splitOn sep cs with
      | [] => [[c]]
      | piece :: pieces => (c :: piece) :: pieces

/-- The pieces with `sep` between them. -/
def join (sep : Text) : List Text → Text
  | [] => []
  | [piece] => piece
  | piece :: pieces => piece ++ sep ++ join sep pieces

/-- The rest of the text behind `lead`, if it starts with it. -/
def after? : (lead s : Text) → Option Text
  | [], s => some s
  | _ :: _, [] => none
  | a :: lead, c :: s => if a == c then after? lead s else none

def has (part : Text) : Text → Bool
  | [] => part.isEmpty
  | c :: s => (after? part (c :: s)).isSome || has part s

end Text

end Stencil
