import Stencil.Text.Blank

/-!
# The console

Messages are printed through a library that takes part of them for markup. What it makes of a text
is its own affair: it may leave something out, or refuse a text with a closing tag that closes
nothing.
-/

namespace Stencil

/-- A library for consoles. -/
structure Console where
  /-- What is left to show of a text with markup, or what is wrong with the markup. -/
  markup : Text → Except Text Text

end Stencil
