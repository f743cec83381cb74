import Stencil.Rendering
import Stencil.Report
import Stencil.Selection
import Stencil.YamlLibrary

/-!
# Templates of a folder

Template files are rendered in place. A file is written only if its text changes and it has no
error, and a trial run writes nothing.
-/

namespace Stencil

/-- Why work on files or settings stops. -/
inductive Failure where
  | file (e : FileError)
  | undecodable (fault : Utf8.Fault)
  | unencodable (halves : Utf8.Halves)
  | conversion (e : ConversionError)
  | document (fault : YamlFault)
  /-- A message is no markup that the console takes. -/
  | markup (message : Text)
  deriving DecidableEq, Repr

namespace Failure

def message : Failure → Text
  | file .notFound => text "No such file or folder"
  | file .isFolder => text "Is a folder"
  | file .notFolder => text "Not a folder"
  | file .alreadyExists => text "A file is in the way"
  | undecodable fault => fault.message
  | unencodable halves => halves.message
  | conversion e => e.message
  | document fault => fault.message
  | markup message => message

end Failure

/-- The text in the bytes of a file, if there is one, with uniform line ends. -/
def textOf : Option Bytes → Except Failure Text
  | none => .error (.file .notFound)
  | some bytes => (Utf8.read bytes).mapError .undecodable

/-- The text of a file, with uniform line ends. -/
def Disk.readText (disk : Disk) (p : Path) : Except Failure Text := do
  let bytes ← (disk.readBytes p).mapError .file
  (Utf8.read bytes).mapError .undecodable

/-- Writes a text at a path without `..`. The file is emptied first, and it stays empty if the text
has half of a surrogate pair in it. -/
def Disk.storeAt (disk : Disk) (p : Path) (s : Text) : Disk × Except Failure Unit :=
  match Utf8.encode s with
  | .ok bytes => (disk.writeAt p bytes, .ok ())
  | .error halves => (disk.writeAt p [], .error (.unencodable halves))

def Disk.writeText (disk : Disk) (p : Path) (s : Text) : Disk × Except Failure Unit :=
  match disk.follow [] p with
  | .error e => (disk, .error (.file e))
  | .ok q => disk.storeAt q s

/-! ## One file -/

def Disk.rendered (disk : Disk) (p : Path) (context : Fields) : Except Failure Rendered := do
  (render (← disk.readText p) context).mapError .conversion

/-- Renders a file in place, unless the run is a trial. -/
def renderFile (disk : Disk) (p : Path) (context : Fields) (dryRun : Bool) :
    Disk × Except Failure Rendered :=
  match disk.rendered p context with
  | .error failure => (disk, .error failure)
  | .ok r =>
    if r.modified && r.isOk && !dryRun then
      let (disk, stored) := disk.writeText p r.content
      (disk, stored.map fun () => r)
    else (disk, .ok r)

/-! ## A folder -/

/-- What becomes of one file of a folder. -/
inductive FileOutcome where
  | unreadable
  | unmarked
  | faulty (errors : List TemplateError)
  | rendered (content : Option Text) (directives : Nat) (warnings : List Warning)

namespace FileOutcome

/-- The outcome for a text; the new content is there only if it differs. -/
def ofText (content : Text) (context : Fields) : Except ConversionError FileOutcome := do
  if !hasMarker content then return unmarked
  let r ← render content context
  if !r.isOk then return faulty r.errors
  let changed := r.modified && r.content != content
  return rendered (if changed then some r.content else none) r.directives r.warnings

/-- The outcome for the bytes of a file, if there is one. -/
def ofBytes (bytes? : Option Bytes) (context : Fields) : Except ConversionError FileOutcome :=
  match textOf bytes? with
  | .error _ => .ok unreadable
  | .ok content => ofText content context

/-- The new text of the file, if it gets one. -/
def content? : FileOutcome → Option Text
  | rendered content _ _ => content
  | _ => none

/-- Writes the new text of the file, if it gets one and the run is no trial. -/
def store (o : FileOutcome) (dryRun : Bool) (disk : Disk) (p : Path) :
    Disk × Except Failure Unit :=
  match o.content? with
  | some content => if dryRun then (disk, .ok ()) else disk.storeAt p content
  | none => (disk, .ok ())

end FileOutcome

def about (name : Text) (message : Text) : Text := name ++ text ": " ++ message

/-- Adds the outcome for a file to a report. -/
def Report.add (r : Report) (name : Text) : FileOutcome → Report
  | .unreadable => { r with filesWithErrors := r.filesWithErrors ++ [name] }
  | .unmarked => r
  | .faulty errors =>
    { r with
      filesWithErrors := r.filesWithErrors ++ [name]
      warnings := r.warnings ++
        [about name (Text.join (text ", ") (errors.map (·.message)))] }
  | .rendered content directives warnings =>
    { r with
      filesModified := r.filesModified + (if content.isSome then 1 else 0)
      modifiedFiles := r.modifiedFiles ++ (if content.isSome then [name] else [])
      totalDirectives := r.totalDirectives + directives
      warnings := r.warnings ++ warnings.map fun w => about name w.message }

/-- Renders the files of a folder one after the other. What was written before a failure stays
written. -/
def renderFiles (folder : Path) (context : Fields) (dryRun : Bool) (disk : Disk) (r : Report) :
    List Path → Disk × Except Failure Report
  | [] => (disk, .ok r)
  | file :: files =>
    let p := folder ++ file
    match FileOutcome.ofBytes (disk.bytes? p) context with
    | .error e => (disk, .error (.conversion e))
    | .ok outcome =>
      match outcome.store dryRun disk p with
      | (disk, .error failure) => (disk, .error failure)
      | (disk, .ok ()) =>
        renderFiles folder context dryRun disk (r.add (Path.relativeText file) outcome) files

def renderFolder (disk : Disk) (folder : Path) (context : Fields) (selection : Selection)
    (dryRun : Bool) : Disk × Except Failure Report :=
  let files := selection.find disk folder
  match disk.follow [] folder with
  | .error _ => (disk, .ok (.start 0))
  | .ok top => renderFiles top context dryRun disk (.start files.length) files

/-- The errors of a file of a folder that no context is needed for. -/
def fileErrors (disk : Disk) (p : Path) : List Text :=
  match textOf (disk.bytes? p) with
  | .error failure => [text "Cannot read template file: " ++ failure.message]
  | .ok content => (templateErrors content).map (·.message)

/-- The selected files of a folder that have errors, with these. -/
def folderErrors (disk : Disk) (folder : Path) (selection : Selection) :
    List (Text × List Text) :=
  match disk.follow [] folder with
  | .error _ => []
  | .ok top =>
    (selection.find disk folder).filterMap fun file =>
      let errors := fileErrors disk (top ++ file)
      if errors.isEmpty then none else some (Path.relativeText file, errors)

end Stencil
