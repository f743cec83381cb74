import Stencil.Text.Blank

/-!
# Arguments

A command line names a command and holds its options and operands. Options start with a dash and
may stand among the operands; behind `--` all is operand.
-/

namespace Stencil.CommandLine

/-! ## Options -/

/-- The options that are known at some place: those that stand alone, and those with a value.
`mixed` says whether they may stand behind an operand. -/
structure Options where
  flags : List Text
  valued : List Text
  mixed : Bool

structure Given where
  flags : List Text
  values : List (Text × Text)
  operands : List Text
  deriving DecidableEq, Repr

namespace Given

/-- Whether an option without a value is given. -/
def hasFlag (g : Given) (name : String) : Bool := g.flags.contains (text name)

/-- The value of an option; the last one counts. -/
def value? (g : Given) (name : String) : Option Text := g.values.reverse.lookup (text name)

/-- Adds an option without a value in front. -/
def withFlag (g : Given) (flag : Text) : Given := { g with flags := flag :: g.flags }

/-- Adds an option with its value in front. -/
def withValue (g : Given) (name value : Text) : Given :=
  { g with values := (name, value) :: g.values }

def withOperand (g : Given) (operand : Text) : Given :=
  { g with operands := operand :: g.operands }

end Given

/-- Whether an argument is an option; a single dash is none. -/
def isOption (arg : Text) : Bool := arg.head? == some (chr '-') && arg != [chr '-']

/-- Whether an argument is a dash with letters that are flags each. -/
def isCluster (known : Options) (arg : Text) : Bool :=
  arg.tail.all fun letter => known.flags.contains [chr '-', letter]

/-- Tells options and operands apart. There is no answer if an option is unknown, lacks its value,
or has one that it does not take. -/
def scan (known : Options) : List Text → Option Given
  | [] => some ⟨[], [], []⟩
  | arg :: rest =>
    if arg == text "--" then some ⟨[], [], rest⟩
    else if !isOption arg then
      if known.mixed then (scan known rest).map (·.withOperand arg)
      else some ⟨[], [], arg :: rest⟩
    else match Text.cut? '=' arg with
      | some (name, value) =>
        if known.valued.contains name then (scan known rest).map (·.withValue name value) else none
      | none =>
        if known.flags.contains arg || isCluster known arg then
          (scan known rest).map (·.withFlag arg)
        else if known.valued.contains arg then
          match rest with
          | [] => none
          | value :: rest => (scan known rest).map (·.withValue arg value)
        else none

/-! ## Commands -/

/-- What a command line asks for. A project is named by its folder, else it is searched for. -/
inductive Command where
  | help
  /-- Render the templates of a folder in place. -/
  | render (project folder : Option Text) (dryRun json : Bool)
  /-- Tell the errors of templates that need no context. -/
  | validate (paths : List Text) (project : Option Text) (json : Bool)
  /-- Set a variable of a project, or remove it. -/
  | setVariable (key : Text) (value : Option Text) (project : Option Text) (unset : Bool)
  /-- Show the context that the templates of a project are rendered in. -/
  | context (project : Option Text)
  deriving DecidableEq, Repr

namespace Command

/-- The options in front of the name of a command. -/
def leading : Options := ⟨[text "--help", text "--verbose", text "-v"], [], false⟩

/-- The options in front of the name inside the group. -/
def groupOptions : Options := ⟨[text "--help"], [], false⟩

def renderOptions : Options :=
  ⟨[text "--help", text "--dry-run", text "--json"], [text "--project", text "--dir"], true⟩

def validateOptions : Options := ⟨[text "--help", text "--json"], [text "--project"], true⟩

def setVariableOptions : Options := ⟨[text "--help", text "--unset"], [text "--project"], true⟩

def contextOptions : Options := ⟨[text "--help"], [text "--project"], true⟩

/-- The command that arguments make, if they are in order; help comes before all else. -/
def make (known : Options) (args : List Text) (f : Given → Option Command) : Option Command := do
  let g ← scan known args
  if g.hasFlag "--help" then some help else f g

/-- `render` takes no operands. -/
def ofRender (g : Given) : Option Command :=
  if g.operands.isEmpty then
    some (render (g.value? "--project") (g.value? "--dir") (g.hasFlag "--dry-run")
      (g.hasFlag "--json"))
  else none

/-- `validate` takes the paths to check. -/
def ofValidate (g : Given) : Option Command :=
  some (validate g.operands (g.value? "--project") (g.hasFlag "--json"))

/-- `set-var` takes a name and maybe a value. -/
def ofSetVariable (g : Given) : Option Command :=
  match g.operands with
  | [key] => some (setVariable key none (g.value? "--project") (g.hasFlag "--unset"))
  | [key, value] =>
    some (setVariable key (some value) (g.value? "--project") (g.hasFlag "--unset"))
  | _ => none

/-- `context` takes no operands. -/
def ofContext (g : Given) : Option Command :=
  if g.operands.isEmpty then some (context (g.value? "--project")) else none

def named (name : Text) (args : List Text) : Option Command :=
  if name == text "render" then make renderOptions args ofRender
  else if name == text "validate" then make validateOptions args ofValidate
  else if name == text "set-var" then make setVariableOptions args ofSetVariable
  else if name == text "context" then make contextOptions args ofContext
  else none

/-- The command that the first operand names, with what follows it. -/
def ofGroup (g : Given) : Option Command :=
  match g.operands with
  | name :: args => named name args
  | [] => none

def ofLeading (g : Given) : Option Command :=
  match g.operands with
  | name :: args => if name == text "templates" then make groupOptions args ofGroup else none
  | [] => none

/-- The command that a command line asks for, if it is in order. -/
def read (args : List Text) : Option Command := make leading args ofLeading

end Command

def usage : List Text :=
  [text "usage: [-v] templates COMMAND",
   text "  render [--project FOLDER] [--dir FOLDER] [--dry-run] [--json]",
   text "  validate [PATH ...] [--project FOLDER] [--json]",
   text "  set-var KEY [VALUE] [--project FOLDER] [--unset]",
   text "  context [--project FOLDER]"]

end Stencil.CommandLine
