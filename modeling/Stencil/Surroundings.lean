import Stencil.Disk

/-!
# Surroundings

What a run finds around it besides the disk: the folder it starts in, the home of its user, and
the folder of templates that the environment names.
-/

namespace Stencil

/-- The folder that written paths are seen from, the home of the user, and the folder of templates
that the environment names. -/
structure Surroundings where
  here : Path
  home : Option Path
  templateRoot : Option Text

namespace Surroundings

/-- The name that stands for the home of the user at the front of a path. -/
def homeName : Text := text "~"

def place (around : Surroundings) (s : Text) : Path :=
  let p := match around.home, Path.names s with
    | some home, name :: rest =>
      if name == homeName && !Path.isAbsolute s then home ++ rest else Path.seenFrom around.here s
    | _, _ => Path.seenFrom around.here s
  p.resolve

end Surroundings

end Stencil
