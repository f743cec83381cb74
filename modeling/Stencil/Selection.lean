import Stencil.Disk
import Stencil.Text.LetterCase

/-!
# Selecting files

Template files are selected by the endings of their names; whole folders can be excluded.
-/

namespace Stencil

/-- Which files count as templates. -/
structure Selection where
  extensions : List Text
  exclude : List Text
  deriving DecidableEq, Repr

namespace Selection

/-- The endings of templates where nothing else is asked for. -/
def defaultExtensions : List Text :=
  [text ".md", text ".json", text ".yaml", text ".yml", text ".txt"]

/-- The folders that are excluded where nothing else is asked for. -/
def defaultExclude : List Text :=
  [text "node_modules", text ".git", text "dist", text "build"]

/-- The selection where nothing else is asked for. -/
def standard : Selection := ⟨defaultExtensions, defaultExclude⟩

/-- An extension in lower case with a dot in front. -/
def normalize (extension : Text) : Text :=
  if extension.head? == some (chr '.') then Text.lower extension else '.' :: Text.lower extension

/-- Whether a name has one of the endings, in any letter case. -/
def wants (selection : Selection) (name : Text) : Bool :=
  (selection.extensions.map normalize).contains (Text.lower (Path.suffix name))

/-- Whether a file is selected, by its path below the folder that is searched. -/
def selects (selection : Selection) (below : Path) : Bool :=
  below.getLast?.any selection.wants && !below.dropLast.any selection.exclude.contains

/-- The path of a file below a folder. -/
def below? (folder file : Path) : Option Path :=
  if folder.isPrefixOf file && folder.length < file.length then some (file.drop folder.length)
  else none

/-- The selected files below a folder, by their paths below it, in the order of these paths. -/
def find (selection : Selection) (disk : Disk) (folder : Path) : List Path :=
  match disk.follow [] folder with
  | .error _ => []
  | .ok top =>
    ((disk.files.filterMap fun f => below? top f.1).filter selection.selects).mergeSort Path.le

end Selection

end Stencil
