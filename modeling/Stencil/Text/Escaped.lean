import Stencil.Text.Blank
import Stencil.Text.Quoted

/-!
# Escaped strings

Strings in JSON text: double quotes, a backslash in front of quotes and backslashes, escapes for
control characters, and on demand for all that is not ASCII.
-/

namespace Stencil.Text

/-- The escape of a code unit, with four hexadecimal digits. -/
def unitEscape (n : Nat) : Text := text "\\u" ++ hex 4 n

/-- One character of an escaped string. Beyond the basic plane an escape is a pair of units. -/
def escapedChar (ascii : Bool) (c : CodePoint) : Text :=
  if c == '"' || c == '\\' then ['\\', c]
  else if c == '\n' then text "\\n"
  else if c == '\r' then text "\\r"
  else if c == '\t' then text "\\t"
  else if c == '\x08' then text "\\b"
  else if c == '\x0c' then text "\\f"
  else if c.toNat < 0x20 then unitEscape c.toNat
  else if !ascii || c.toNat < 0x7F then [c]
  else if c.toNat < 0x10000 then unitEscape c.toNat
  else
    let n := c.toNat - 0x10000
    unitEscape (0xD800 + n / 0x400) ++ unitEscape (0xDC00 + n % 0x400)

/-- The text between double quotes; with `ascii` every other character is escaped. -/
def escaped (ascii : Bool) (s : Text) : Text :=
  [chr '"'] ++ s.flatMap (escapedChar ascii) ++ [chr '"']

end Stencil.Text
