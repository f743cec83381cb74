import Stencil.Text.Blank
import Stencil.Text.Ranges
import Stencil.Text.PrintableTable

/-!
# Quoted text

How messages show a text: between single quotes, or double ones if the text has a single quote
and no double one. What does not print is written as an escape.
-/

namespace Stencil.Text

/-- A number in lower-case hexadecimal with at least `width` digits. -/
def hex (width n : Nat) : Text :=
  let digits := (Nat.toDigits 16 n).map chr
  List.replicate (width - digits.length) (chr '0') ++ digits

/-- Whether a character is shown as it is. -/
def isPrintable (c : CodePoint) : Bool := inRanges printableRanges c.toNat

def quotedChar (quote c : CodePoint) : Text :=
  if c == quote || c == '\\' then ['\\', c]
  else if c == '\t' then text "\\t"
  else if c == '\n' then text "\\n"
  else if c == '\r' then text "\\r"
  else if isPrintable c then [c]
  else if c.toNat < 0x100 then text "\\x" ++ hex 2 c.toNat
  else if c.toNat < 0x10000 then text "\\u" ++ hex 4 c.toNat
  else text "\\U" ++ hex 8 c.toNat

def quoted (s : Text) : Text :=
  let quote : CodePoint := if s.contains '\'' && !s.contains '"' then '"' else '\''
  [quote] ++ s.flatMap (quotedChar quote) ++ [quote]

end Stencil.Text
