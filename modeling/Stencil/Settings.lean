import Stencil.Context
import Stencil.Selection
import Stencil.YamlLibrary

/-!
# Settings

Which files are templates, and the free variables. Settings are kept as a document; what else it
holds stays as it is.
-/

namespace Stencil

/-- Which files are templates, and the free variables in order. -/
structure Settings where
  selection : Selection
  custom : Fields
  deriving DecidableEq

namespace Settings

/-- The settings of a project that writes none. -/
def standard : Settings := ⟨.standard, []⟩

def extensionsName : Text := text "extensions"
def excludeName : Text := text "exclude"

/-! ## Settings and values -/

/-- The names in a list, trimmed, without the blank ones. -/
def listedNames (items : List Value) : List Text :=
  (items.map fun v => Text.trim v.label).filter (!·.isEmpty)

/-- The names of a field, or the standard ones if it holds no list. -/
def namesIn (key : Text) (fields : Fields) (standard : List Text) : List Text :=
  match Fields.get? key fields with
  | some (.list items) => listedNames items
  | _ => standard

/-- Why a name in the list of a field has no text, if one has none. -/
def namesFault? (key : Text) (fields : Fields) : Option ConversionError :=
  match Fields.get? key fields with
  | some (.list items) => Value.shownItemsFault? items
  | _ => none

/-- The settings that fields write. -/
def ofFields (fields : Fields) : Settings where
  selection :=
    ⟨namesIn extensionsName fields Selection.defaultExtensions,
      namesIn excludeName fields Selection.defaultExclude⟩
  custom := Fields.within customName fields

/-- The settings that a value writes; anything but a mapping leaves the standard ones. -/
def ofValue : Value → Settings
  | .object fields => ofFields fields
  | _ => standard

/-- Why a value does not write settings, if it does not. -/
def fault? : Value → Option ConversionError
  | .object fields => (namesFault? extensionsName fields).or (namesFault? excludeName fields)
  | _ => none

/-- The settings in a document; one that is no mapping is not looked into. -/
def ofTree (tree : YamlTree) : Except ConversionError Settings :=
  match tree with
  | .mapping _ =>
    match tree.fault?.or (fault? tree.toValue) with
    | some e => .error e
    | none => .ok (ofValue tree.toValue)
  | _ => .ok standard

def toFields (s : Settings) : Fields :=
  [(extensionsName, .list (s.selection.extensions.map .str)),
   (excludeName, .list (s.selection.exclude.map .str)),
   (customName, .object s.custom)]

/-! ## Variables -/

/-- Sets a free variable: one that is there keeps its place, a new one goes last. -/
def setVariable (s : Settings) (key : Text) (value : Value) : Settings :=
  { s with custom := Fields.insert key value s.custom }

def removeVariable (s : Settings) (key : Text) : Settings :=
  { s with custom := Fields.erase key s.custom }

/-- The value that the text of a variable writes: what the library for documents makes of it, or the
text itself if it is no document or an empty one. -/
def variableValue (yaml : YamlLibrary) (raw : Text) : Except YamlFault Value :=
  match yaml.readValue raw with
  | .error (.malformed _) => .ok (.str raw)
  | .error fault => .error fault
  | .ok .null => .ok (if (Text.trim raw).isEmpty then .null else .str raw)
  | .ok v => .ok v

end Settings

end Stencil
