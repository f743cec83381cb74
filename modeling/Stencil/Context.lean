import Stencil.Context.Stack

/-!
# Contexts of projects

The context that templates are rendered in is built from the configuration of a project and then
extended by further sections and variables.
-/

namespace Stencil

/-! ## Building -/

/-- The fields of the project that a context takes over. -/
def projectFields : List Text :=
  [text "name", text "description", text "org", text "repo", text "domain", text "entityType",
   text "location"]

/-- The ids of a selection: a list, or a mapping with the list in its field `selected`. -/
def selectedIds (selection : Value) : List Text :=
  let selected := match selection with
    | .object fields => (Fields.get? (text "selected") fields).getD .null
    | v => v
  match selected with
  | .list ids => ids.map Value.label
  | _ => []

/-- The id of a server: a text, or the field `serverId` of a mapping. -/
def serverId? : Value → Option Text
  | .object fields =>
    match Fields.get? (text "serverId") fields with
    | some id => if id.truthy then some id.label else none
    | none => none
  | .str id => some id
  | _ => none

def serverIds : Option Value → List Text
  | some (.list servers) => servers.filterMap serverId?
  | _ => []

def idsIn (key : Text) (fields : Fields) : List Text :=
  ((Fields.get? key fields).map selectedIds).getD []

def idList (ids : List Text) : Value := .list (ids.map .str)

def isSet (key : Text) (fields : Fields) : Bool := (Fields.get? key fields).any Value.truthy

/-- The tools that the configuration of the code style asks for. -/
def codeStyle (style : Fields) : Fields :=
  let formatter := if isSet (text "biome") style then text "biome"
    else if isSet (text "prettier") style then text "prettier" else text "none"
  let linter := if isSet (text "biome") style then text "biome" else text "none"
  [(text "formatter", .str formatter),
   (text "linter", .str linter),
   (text "editorConfig", .bool (isSet (text "editorconfig") style)),
   (text "commitlint", .bool (isSet (text "commitlint") style))]

/-- The known fields of the project that are not null. -/
def projectSection (project : Fields) : Fields :=
  projectFields.filterMap fun name =>
    match Fields.get? name project with
    | none | some .null => none
    | some v => some (name, v)

def customName : Text := text "custom"

def buildContext (config : Fields) : Fields :=
  let modules := Fields.within (text "modules") config
  let style := Fields.within (text "codeStyle") (Fields.within (text "extras") config)
  let servers := Fields.get? (text "servers") (Fields.within (text "mcp") config)
  [(text "project", .object (projectSection (Fields.within (text "project") config))),
   (text "modules", .object (moduleCategories.map fun c => (c, idList (idsIn c modules)))),
   (text "codeStyle", .object (codeStyle style)),
   (text "techStack", .object (inferStack (idsByCategory selectedIds modules))),
   (text "bundles", idList (idsIn (text "bundles") config)),
   (text "mcpServers", idList (serverIds servers)),
   (customName, .object [])]

/-! ## Extending -/

/-- What becomes of a section: mappings are merged, lists are joined, all else is replaced. -/
def mergeSection : (current? : Option Value) → (addition : Value) → Value
  | some (.object current), .object addition => .object (Fields.update current addition)
  | some (.list current), .list addition => .list (current ++ addition)
  | _, addition => addition

def addSection (context : Fields) (added : Text × Value) : Fields :=
  Fields.insert added.1 (mergeSection (Fields.get? added.1 context) added.2) context

/-- Merges sections into a context, one after the other. -/
def extendContext (context additions : Fields) : Fields := additions.foldl addSection context

def addVariable (context : Fields) (key : Text) (value : Value) : Fields :=
  extendContext context [(customName, .object [(key, value)])]

def addVariables (context custom : Fields) : Fields :=
  custom.foldl (fun c field => addVariable c field.1 field.2) context

/-! ## Modules -/

/-- The ids of all modules of a context. -/
def allModules (context : Fields) : List Text :=
  idsByCategory selectedIds (Fields.within (text "modules") context)

/-- Whether a module is among those of a context. -/
def hasModule (context : Fields) (id : Text) : Bool := (allModules context).contains id

/-- Whether some of the modules are among those of a context. -/
def hasAnyModule (context : Fields) (ids : List Text) : Bool :=
  ids.any (allModules context).contains

/-- Whether all of the modules are among those of a context. -/
def hasAllModules (context : Fields) (ids : List Text) : Bool :=
  ids.all (allModules context).contains

end Stencil
