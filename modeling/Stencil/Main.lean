import Stencil.Libraries

/-!
# The program

Puts what a command needs of the real files on a disk, carries the command out there, and writes
the files that have changed.
-/

namespace Stencil.Program

def characters (s : Text) : String :=
  .ofList (s.filterMap fun | .chr c => some c | .lone _ => none)

def real (p : Path) := (IO.FS.DirEntry.mk (characters p.toText) "").root

/-! ## Reading -/

/-- Adds what is at a path to a disk: a file with its bytes, or a folder. -/
def addPlace (disk : Disk) (p : Path) : IO Disk := do
  if ← (real p).isDir then return disk.addFolder p
  else if ← (real p).pathExists then
    return disk.writeAt p (← IO.FS.readBinFile (real p)).toList
  else return disk

/-- Adds all places that a path leads through. -/
def addWay (disk : Disk) (p : Path) : IO Disk :=
  (List.range (p.length + 1)).foldlM (fun disk n => addPlace disk (Path.resolve (p.take n))) disk

/-- Adds the files below a folder that a selection takes. -/
partial def addSelected (disk : Disk) (selection : Selection) (top : Path) (here : Path) :
    IO Disk := do
  let mut disk := disk
  for entry in ← (real (top ++ here)).readDir do
    let below := here ++ [text entry.fileName]
    if ← entry.path.isDir then disk ← addSelected disk selection top below
    else if selection.selects below then disk ← addPlace disk (top ++ below)
  return disk

/-- Adds what a path names: a file, or the selected files of a folder. -/
def addTemplates (disk : Disk) (selection : Selection) (p : Path) : IO Disk := do
  let disk ← addWay disk p
  if disk.isFolder p then addSelected disk selection p.resolve [] else return disk

/-- Adds the configuration and the settings of a project. -/
def addProject (disk : Disk) (root : Path) : IO Disk := do
  [Project.folder root, Project.configPath root, Project.settingsPath root].foldlM addPlace
    (← addWay disk root)

/-- The folders from the top down to one. -/
def ancestors (p : Path) : List Path := (List.range (p.length + 1)).map p.take

/-- The disk with the project that is asked for, or with all that might be around the run. -/
def projectDisk (around : Surroundings) (project : Option Text) : IO Disk :=
  match project with
  | some s => addProject .empty (around.place s)
  | none => (ancestors around.here).foldlM addProject .empty

/-- The disk with the templates of a project as well. -/
def templateDisk (around : Surroundings) (project folder : Option Text) : IO Disk := do
  let disk ← projectDisk around project
  match CommandLine.loadProject CommandLine.Libraries.standard.yaml around disk project with
  | .error _ => return disk
  | .ok (root, loaded) =>
    addTemplates disk loaded.settings.selection (Project.templateRoot around root folder)

/-- The disk with all that a command needs. -/
def diskFor (around : Surroundings) : CommandLine.Command → IO Disk
  | .help => return .empty
  | .render project folder _ _ => templateDisk around project folder
  | .validate [] project _ => templateDisk around project none
  | .validate paths _ _ =>
    paths.foldlM (fun disk s => addTemplates disk .standard (Path.seenFrom around.here s)) .empty
  | .setVariable _ _ project _ => projectDisk around project
  | .context project => projectDisk around project

/-! ## Writing -/

/-- Writes the files that are new or different. -/
def writeChanges (old new : Disk) : IO Unit :=
  for (p, bytes) in new.files do
    if old.bytes? p != some bytes then
      IO.FS.createDirAll (real p.dropLast)
      IO.FS.writeBinFile (real p) (ByteArray.mk bytes.toArray)

/-! ## Running -/

def surroundings : IO Surroundings := do
  let here ← IO.currentDir
  let home ← IO.getEnv "HOME"
  let templateRoot ← IO.getEnv "AGENT_CONFIG_TEMPLATE_ROOT"
  return ⟨Path.names (text here.toString), home.map fun s => Path.names (text s),
    templateRoot.map text⟩

/-- Carries out a command line and gives the exit code. -/
def carryOut (args : List Text) : IO UInt32 := do
  match CommandLine.Command.read args with
  | none =>
    (← IO.getStderr).putStr (characters (CommandLine.shown CommandLine.usage))
    return 2
  | some command =>
    let around ← surroundings
    let disk ← diskFor around command
    let outcome := CommandLine.run .standard around disk command
    writeChanges disk outcome.disk
    IO.print (characters outcome.output)
    if let .broken failure := outcome.ending then
      (← IO.getStderr).putStrLn (characters failure.message)
    return outcome.ending.exitCode.toUInt32

end Stencil.Program

def main (args : List String) : IO UInt32 := Stencil.Program.carryOut (args.map Stencil.text)
