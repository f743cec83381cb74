import Stencil.CommandLine
import Stencil.Yaml

/-!
# The libraries of the program

The reader and the writer of documents and the screen that the program runs with.
-/

namespace Stencil.CommandLine

def Libraries.standard : Libraries := ⟨Yaml.library, ⟨Text.markup⟩⟩

end Stencil.CommandLine
