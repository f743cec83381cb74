import Stencil.Text.Blank
import Stencil.Text.Ranges
import Stencil.Text.WordTable

/-!
# Word characters

Names are made of letters and numerals of every script and the underscore.
-/

namespace Stencil.Text

/-- A Latin letter without marks. -/
def isAsciiLetter (c : CodePoint) : Bool := c.isLower || c.isUpper

/-- A letter or numeral of any script, or the underscore. -/
def isWord (c : CodePoint) : Bool :=
  c == '_' || inRanges alphanumericRanges c.toNat

end Stencil.Text
