import Stencil.CommandLine.Arguments
import Stencil.Console
import Stencil.Project
import Stencil.Text.Markup
import Stencil.Text.Wrapped

/-!
# The command line

A command is carried out on a disk. The outcome is the disk afterwards, what is shown, and how the
run ends. The libraries that read documents and take messages for markup are given.
-/

namespace Stencil.CommandLine

structure Libraries where
  yaml : YamlLibrary
  console : Console

/-! ## Outcomes -/

/-- How a run ends. -/
inductive Ending where
  | done
  | unsuccessful
  | misused
  /-- What no one has an explanation for. -/
  | broken (failure : Failure)
  deriving DecidableEq, Repr

/-- The exit code: zero for success, two for a command line that is not in order, else one. -/
def Ending.exitCode : Ending → Nat
  | done => 0
  | unsuccessful | broken _ => 1
  | misused => 2

/-- What a command leaves behind: the disk, what is shown, and how the run ends. -/
structure Outcome where
  disk : Disk
  output : Text
  ending : Ending

def screenWidth : Nat := 120

def shown (rows : List Text) : Text := Text.wrap screenWidth (Text.screen rows)

def Outcome.behind (rows : List Text) (o : Outcome) : Outcome :=
  { o with output := shown rows ++ o.output }

def verdict (good : Bool) : Ending := if good then .done else .unsuccessful

/-- Why a command is refused. -/
inductive Refusal where
  | invalidName (key : Text)
  | missingValue
  | noProject
  | noTemplates (folder : Path)
  | project (e : Project.Error)
  deriving DecidableEq, Repr

def Refusal.message : Refusal → Text
  | invalidName key => text "Invalid variable name: " ++ key
  | missingValue => text "Missing VALUE (or pass --unset)"
  | noProject =>
    text "Not inside a configured project. Run this command from a directory containing " ++
      text ".claude/ or pass --project."
  | noTemplates folder => text "Template directory not found: " ++ folder.toText
  | project e => e.message

/-- A message about an error with its markup. Nothing protects brackets in the message itself. -/
def errorMarkup (message : Text) : Text := text "[red]Error:[/red] " ++ message

/-- The outcome of a command that prints why it is refused. -/
def complaint (console : Console) (disk : Disk) (message : Text) : Outcome :=
  match console.markup (errorMarkup message) with
  | .error fault => ⟨disk, [], .broken (.markup fault)⟩
  | .ok s => ⟨disk, shown [s], .unsuccessful⟩

/-- The outcome of a command that is refused. -/
def refused (console : Console) (disk : Disk) : Refusal → Outcome
  | .project (.other failure) => ⟨disk, [], .broken failure⟩
  | r => complaint console disk r.message

def jsonOutput (v : Value) : Text := v.jsonLines 0 ++ [chr '\n']

/-! ## Projects -/

/-- The folder of the project: the one that is asked for, else the one around the run. -/
def projectRoot (around : Surroundings) (disk : Disk) : Option Text → Except Refusal Path
  | some s => .ok (around.place s)
  | none =>
    match Project.locate disk around.here with
    | some root => .ok root
    | none => .error .noProject

def loadProject (yaml : YamlLibrary) (around : Surroundings) (disk : Disk) (asked : Option Text) :
    Except Refusal (Path × Project.Loaded) := do
  let root ← projectRoot around disk asked
  return (root, ← (Project.load yaml disk root).mapError .project)

/-! ## Rendering -/

/-- What is shown in front of a report if the project has no configuration. -/
def unconfigured : Text := text "No .claude/config.json found; rendering with an empty context"

def showReport (r : Report) (dryRun json : Bool) : Text :=
  if json then jsonOutput (.object (r.toFields ++ [(text "dry_run", .bool dryRun)]))
  else
    shown (r.lines ++
      if dryRun && r.filesModified != 0 then [[], text "Dry run: no files were written"] else [])

/-- Renders the templates below a folder and shows the report. -/
def renderBelow (console : Console) (disk : Disk) (folder : Path) (loaded : Project.Loaded)
    (dryRun json : Bool) : Outcome :=
  if !disk.isFolder folder then refused console disk (.noTemplates folder)
  else match renderFolder disk folder loaded.context loaded.settings.selection dryRun with
    | (disk, .error failure) => ⟨disk, [], .broken failure⟩
    | (disk, .ok report) => ⟨disk, showReport report dryRun json, verdict !report.hasErrors⟩

/-- Renders the templates of a project, or of another folder in its context. -/
def runRender (libs : Libraries) (around : Surroundings) (disk : Disk)
    (project folder : Option Text) (dryRun json : Bool) : Outcome :=
  match loadProject libs.yaml around disk project with
  | .error r => refused libs.console disk r
  | .ok (root, loaded) =>
    let below := Project.templateRoot around root folder
    (renderBelow libs.console disk below loaded dryRun json).behind
      (if loaded.configured || json then [] else [unconfigured])

/-! ## Validating -/

/-- What a check has found: the errors by the names of the files, and how many files it has seen. -/
structure Findings where
  problems : List (Text × List Text)
  checked : Nat

namespace Findings

def empty : Findings := ⟨[], 0⟩

/-- Puts the errors of a file in place of what was there for it. -/
def insert (name : Text) (errors : List Text) : List (Text × List Text) → List (Text × List Text)
  | [] => [(name, errors)]
  | (other, old) :: problems =>
    if other == name then (name, errors) :: problems
    else (other, old) :: insert name errors problems

def add (f : Findings) (name : Text) (errors : List Text) : Findings :=
  { f with problems := insert name errors f.problems }

def count (f : Findings) (n : Nat) : Findings := { f with checked := f.checked + n }

def isClean (f : Findings) : Bool := f.problems.isEmpty

def toFields (f : Findings) : Fields :=
  [(text "valid", .bool f.isClean), (text "checked", .int f.checked),
   (text "errors", .object (f.problems.map fun (name, errors) => (name, .list (errors.map .str))))]

def lines (f : Findings) : List Text :=
  if f.isClean then [text "✓ All templates are valid"]
  else
    (text "✗ " ++ Text.ofNat f.problems.length ++ text " template(s) with errors:") ::
      f.problems.flatMap fun (name, errors) => errors.map fun e => text "  " ++ about name e

end Findings

/-- Checks what a written path names: a file, or the selected files of a folder. -/
def checkPath (around : Surroundings) (disk : Disk) (selection : Selection) (f : Findings)
    (s : Text) : Except Failure Findings :=
  let p := Path.seenFrom around.here s
  if disk.isFolder p then
    let found := (folderErrors disk p selection).foldl
      (fun f (name, errors) => f.add (Path.below s (Path.names name)) errors) f
    .ok (found.count (selection.find disk p).length)
  else if disk.isFile p then do
    let errors := (templateErrors (← disk.readText p)).map (·.message)
    return (if errors.isEmpty then f else f.add (Path.below s []) errors).count 1
  else .ok (f.add (Path.below s []) [text "Path not found"])

def checkPaths (around : Surroundings) (disk : Disk) (selection : Selection) (paths : List Text)
    (json : Bool) : Outcome :=
  match paths.foldlM (checkPath around disk selection) .empty with
  | .error failure => ⟨disk, [], .broken failure⟩
  | .ok f =>
    ⟨disk, if json then jsonOutput (.object f.toFields) else shown f.lines,
      verdict f.isClean⟩

/-- Without paths the templates of the project are checked, by its own selection. -/
def runValidate (libs : Libraries) (around : Surroundings) (disk : Disk) (paths : List Text)
    (project : Option Text) (json : Bool) : Outcome :=
  if paths.isEmpty then
    match loadProject libs.yaml around disk project with
    | .error r => refused libs.console disk r
    | .ok (root, loaded) =>
      checkPaths around disk loaded.settings.selection
        [(Project.templateRoot around root none).toText] json
  else checkPaths around disk .standard paths json

/-! ## Variables -/

/-- Whether a variable may be set under a name: a letter of ASCII or an underscore, then word
characters and dashes. A newline at the end is let pass. -/
def isVariableName : Text → Bool
  | [] => false
  | c :: s =>
    (Text.isAsciiLetter c || c == '_') &&
      (if s.getLast? == some (chr '\n') then s.dropLast else s).all
        fun c => Text.isWord c || c == chr '-'

/-- How a variable is called in a context. -/
def variablePath (key : Text) : Text := customName ++ [chr '.'] ++ key

/-- What is shown once a variable is set. -/
def assignment (key : Text) (value : Value) : Text :=
  text "✓ Set " ++ variablePath key ++ text " = " ++ Text.shownOnScreen (value.json true)

def runSet (libs : Libraries) (disk : Disk) (root : Path) (key raw : Text) : Outcome :=
  match Settings.variableValue libs.yaml raw with
  | .error fault => ⟨disk, [], .broken (.document fault)⟩
  | .ok value =>
    match Project.setVariable libs.yaml disk root key value with
    | (disk, .error e) => refused libs.console disk (.project e)
    | (disk, .ok _) => ⟨disk, shown [assignment key value], .done⟩

/-- Removes a variable; one that is not set is no error. -/
def runUnset (libs : Libraries) (disk : Disk) (root : Path) (key : Text) : Outcome :=
  match Project.removeVariable libs.yaml disk root key with
  | (disk, .error e) => refused libs.console disk (.project e)
  | (disk, .ok false) => ⟨disk, shown [variablePath key ++ text " is not set"], .done⟩
  | (disk, .ok true) => ⟨disk, shown [text "✓ Removed " ++ variablePath key], .done⟩

/-- Sets or removes a variable. The name is checked first, then the value, then the project. -/
def runSetVariable (libs : Libraries) (around : Surroundings) (disk : Disk) (key : Text)
    (value project : Option Text) (unset : Bool) : Outcome :=
  if !isVariableName key then refused libs.console disk (.invalidName key)
  else match value, unset with
    | none, false => refused libs.console disk .missingValue
    | value, _ =>
      match projectRoot around disk project with
      | .error r => refused libs.console disk r
      | .ok root =>
        if unset then runUnset libs disk root key else runSet libs disk root key (value.getD [])

/-! ## Contexts -/

def runContext (libs : Libraries) (around : Surroundings) (disk : Disk) (project : Option Text) :
    Outcome :=
  match loadProject libs.yaml around disk project with
  | .error r => refused libs.console disk r
  | .ok (_, loaded) =>
    match (Value.object loaded.context).jsonFault? with
    | some e => ⟨disk, [], .broken (.conversion e)⟩
    | none => ⟨disk, jsonOutput (.object loaded.context), .done⟩

/-! ## All commands -/

/-- The outcome once its output is printed. Only characters can be, so that half of a surrogate pair
breaks the run; what was shown in front of it is left out then. -/
def Outcome.printed (o : Outcome) : Outcome :=
  match Utf8.encode o.output with
  | .ok _ => o
  | .error halves => { o with output := [], ending := .broken (.unencodable halves) }

/-- What a command leaves behind before its output is printed. -/
def outcomeOf (libs : Libraries) (around : Surroundings) (disk : Disk) : Command → Outcome
  | .help => ⟨disk, shown usage, .done⟩
  | .render project folder dryRun json => runRender libs around disk project folder dryRun json
  | .validate paths project json => runValidate libs around disk paths project json
  | .setVariable key value project unset => runSetVariable libs around disk key value project unset
  | .context project => runContext libs around disk project

def run (libs : Libraries) (around : Surroundings) (disk : Disk) (command : Command) : Outcome :=
  (outcomeOf libs around disk command).printed

/-- Carries out what a command line asks for; one that is not in order does nothing. -/
def runArguments (libs : Libraries) (around : Surroundings) (disk : Disk) (args : List Text) :
    Outcome :=
  match Command.read args with
  | some command => run libs around disk command
  | none => ⟨disk, [], .misused⟩

end Stencil.CommandLine
