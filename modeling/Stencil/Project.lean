import Stencil.Folder
import Stencil.Settings
import Stencil.Surroundings
import Stencil.Value.Json

/-!
# Projects

A project is a folder with a folder `.claude` in it, which holds its configuration and settings.
-/

namespace Stencil.Project

/-- The name of the folder that makes a project. -/
def configFolder : Text := text ".claude"

/-- The folder with the configuration of a project. -/
def folder (root : Path) : Path := root ++ [configFolder]

/-- The file with the configuration of a project. -/
def configPath (root : Path) : Path := folder root ++ [text "config.json"]

/-- The file with the settings of a project. -/
def settingsPath (root : Path) : Path := folder root ++ [text "templates.yaml"]

/-! ## Errors -/

/-- Why the configuration of a project cannot be used. What a file is refused for is in the words of
what reads it. -/
inductive Error where
  | unreadableConfig (path : Path) (reason : Text)
  | configNotObject (path : Path)
  | unreadableSettings (path : Path) (reason : Text)
  /-- What no one has an explanation for that names the file. -/
  | other (failure : Failure)
  deriving DecidableEq, Repr

/-- The error as messages show it, with the path of the file. -/
def Error.message : Error → Text
  | unreadableConfig p reason => text "Failed to read " ++ p.toText ++ text ": " ++ reason
  | configNotObject p => p.toText ++ text " must contain a JSON object"
  | unreadableSettings p reason => text "Failed to parse " ++ p.toText ++ text ": " ++ reason
  | other failure => failure.message

/-! ## Places -/

/-- The first folder with a configuration, from a folder up to the top. -/
def searchUp (disk : Disk) : (reversed : List Text) → Option Path
  | [] => if disk.isFolder (folder []) then some [] else none
  | name :: above =>
    let here := (name :: above).reverse
    if disk.isFolder (folder here) then some here else searchUp disk above

def locate (disk : Disk) (start : Path) : Option Path := searchUp disk start.resolve.reverse

/-- The folder whose templates are rendered: the one that is asked for, else the one that the
environment names, else the configuration folder of the project. -/
def templateRoot (around : Surroundings) (root : Path) (asked : Option Text) : Path :=
  match asked, around.templateRoot.filter (!·.isEmpty) with
  | some s, _ => around.place s
  | none, some s => around.place s
  | none, none => folder root

/-! ## Configuration -/

/-- What is said about a text that is no JSON; the words of the reader are left out. -/
def noJson : Text := text "no readable JSON document"

/-- The configuration of a project, if it has one. -/
def loadConfig (disk : Disk) (root : Path) : Except Error (Option Fields) :=
  let p := configPath root
  if !disk.isThere p then .ok none
  else match disk.readText p with
    | .error (.file e) => .error (.unreadableConfig p (Failure.file e).message)
    | .error failure => .error (.other failure)
    | .ok s =>
      match Json.read s with
      | .error .malformed => .error (.unreadableConfig p noJson)
      | .error (.number e) => .error (.other (.conversion e))
      | .ok (.object fields) => .ok (some fields)
      | .ok _ => .error (.configNotObject p)

/-! ## Settings -/

variable (yaml : YamlLibrary)

def readDocument (disk : Disk) (p : Path) : Except Failure yaml.Document := do
  let bytes ← (disk.readBytes p).mapError .file
  (yaml.load bytes).mapError .document

def readSettings (disk : Disk) (p : Path) : Except Failure Settings := do
  let document ← readDocument yaml disk p
  (Settings.ofTree (yaml.tree document)).mapError .conversion

/-- The settings of a project; without a file they are the standard ones. -/
def loadSettings (disk : Disk) (root : Path) : Except Error Settings :=
  let p := settingsPath root
  if !disk.isThere p then .ok .standard
  else match readSettings yaml disk p with
    | .ok s => .ok s
    | .error (.document (.malformed message)) => .error (.unreadableSettings p message)
    | .error (.file e) => .error (.unreadableSettings p (Failure.file e).message)
    | .error failure => .error (.other failure)

/-- The disk with the folder of the settings. -/
def withFolder (disk : Disk) (root : Path) : Except Failure Disk :=
  if disk.isFolder (folder root) then .ok disk
  else (disk.makeFolders [] (folder root)).mapError .file

/-- The document that settings are stored in: that of their file, if it is a mapping with entries,
or an empty one. -/
def payload (disk : Disk) (root : Path) : Except Failure yaml.Document := do
  if !disk.isThere (settingsPath root) then return yaml.empty
  let document ← readDocument yaml disk (settingsPath root)
  match yaml.tree document with
  | .mapping (_ :: _) => return document
  | _ => return yaml.empty

/-- Writes a document to a file, which is emptied first. -/
def writeDocument (disk : Disk) (p : Path) (document : yaml.Document) :
    Disk × Except Failure Unit :=
  match disk.follow [] p with
  | .error e => (disk, .error (.file e))
  | .ok q =>
    match yaml.dump document with
    | .error fault => (disk.writeAt q [], .error (.document fault))
    | .ok bytes => (disk.writeAt q bytes, .ok ())

/-- Stores settings in the file of a project. Its other fields stay. -/
def saveSettings (disk : Disk) (root : Path) (s : Settings) : Disk × Except Failure Unit :=
  match withFolder disk root with
  | .error e => (disk, .error e)
  | .ok disk =>
    match payload yaml disk root with
    | .error e => (disk, .error e)
    | .ok document => writeDocument yaml disk (settingsPath root) (yaml.update document s.toFields)

/-- Sets a variable in the settings of a project. -/
def setVariable (disk : Disk) (root : Path) (key : Text) (value : Value) :
    Disk × Except Error Settings :=
  match loadSettings yaml disk root with
  | .error e => (disk, .error e)
  | .ok s =>
    let s := s.setVariable key value
    match saveSettings yaml disk root s with
    | (disk, .error failure) => (disk, .error (.other failure))
    | (disk, .ok ()) => (disk, .ok s)

/-- Removes a variable from the settings of a project, and tells whether it was there. -/
def removeVariable (disk : Disk) (root : Path) (key : Text) : Disk × Except Error Bool :=
  match loadSettings yaml disk root with
  | .error e => (disk, .error e)
  | .ok s =>
    if !Fields.contains key s.custom then (disk, .ok false)
    else match saveSettings yaml disk root (s.removeVariable key) with
      | (disk, .error failure) => (disk, .error (.other failure))
      | (disk, .ok ()) => (disk, .ok true)

/-! ## Context -/

/-- The context of a project, its settings, and whether it has a configuration. -/
structure Loaded where
  context : Fields
  settings : Settings
  configured : Bool

/-- The context that a configuration and settings make. -/
def contextOf (config : Option Fields) (settings : Settings) : Fields :=
  addVariables (buildContext (config.getD [])) settings.custom

/-- Loads a project; its configuration is read before its settings. -/
def load (disk : Disk) (root : Path) : Except Error Loaded := do
  let config ← loadConfig disk root
  let settings ← loadSettings yaml disk root
  return ⟨contextOf config settings, settings, config.isSome⟩

end Stencil.Project
