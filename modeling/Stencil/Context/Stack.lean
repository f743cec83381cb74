import Stencil.Value

/-!
# The tech stack

The stack of a project is inferred from the ids of its modules: each field takes the first of its
candidates that occurs in some id.
-/

namespace Stencil

def moduleCategories : List Text := [text "agents", text "skills", text "commands", text "docs"]

/-! ## Inference -/

/-- A field with its candidates; the earlier ones win. -/
structure StackRule where
  field : Text
  candidates : List Text

/-- The fields of the stack with their candidates. -/
def stackRules : List StackRule :=
  [⟨text "framework", [text "nextjs", text "astro", text "tanstack-start", text "react"]⟩,
   ⟨text "orm", [text "prisma", text "drizzle", text "mongoose"]⟩,
   ⟨text "api", [text "hono", text "express", text "fastify", text "nestjs"]⟩,
   ⟨text "deployment", [text "vercel"]⟩]

def occurs (ids : List Text) (fragment : Text) : Bool := ids.any (Text.has fragment)

def StackRule.pick? (rule : StackRule) (ids : List Text) : Option Text :=
  rule.candidates.find? (occurs ids)

def hasTests (ids : List Text) : Bool := occurs ids (text "testing") || occurs ids (text "tdd")

def testField (hasTests : Bool) : Fields :=
  if hasTests then [(text "testing", .str (text "vitest"))] else []

/-- The stack that ids tell of. A field without a candidate is left out. -/
def inferStack (ids : List Text) : Fields :=
  (stackRules.filterMap fun rule => (rule.pick? ids).map fun v => (rule.field, .str v)) ++
    testField (hasTests ids)

/-- The ids of all categories, in the order of the categories. -/
def idsByCategory (ids : Value → List Text) (modules : Fields) : List Text :=
  moduleCategories.flatMap fun category => ((Fields.get? category modules).map ids).getD []

/-! ## Inference from any values -/

/-- Why no stack can be inferred: where ids should be listed, or an id should be, stands a value
that has no parts. -/
inductive StackError where
  | noIds (v : Value)
  | noId (v : Value)

/-- What a value without parts is called in messages. -/
def StackError.kindName : Value → Text
  | .null => text "NoneType"
  | .bool _ => text "bool"
  | .int _ => text "int"
  | .float _ => text "float"
  | _ => text "object"

def StackError.message : StackError → Text
  | noIds v => text "'" ++ kindName v ++ text "' object is not iterable"
  | noId v => text "argument of type '" ++ kindName v ++ text "' is not iterable"

/-- What a value lists: the items of a list, the keys of a mapping, the single characters of a
text. -/
def listed : Value → Except StackError (List Value)
  | .list items => .ok items
  | .object fields => .ok ((Fields.keys fields).map .str)
  | .str s => .ok (s.map fun c => .str [c])
  | v => .error (.noIds v)

/-- Whether a fragment occurs in a value: in a text somewhere, in a list as an item, in a mapping
as a key. -/
def occursIn (fragment : Text) : Value → Except StackError Bool
  | .str id => .ok (Text.has fragment id)
  | .list items => .ok (items.contains (.str fragment))
  | .object fields => .ok (Fields.contains fragment fields)
  | v => .error (.noId v)

/-- The stack that the values of the categories tell of. They are looked at one by one, no further
than is needed. -/
def inferStackOf (modules : Fields) : Except StackError Fields := do
  let ids ← (moduleCategories.filterMap (Fields.get? · modules)).mapM listed
  let picked ← stackRules.mapM fun rule => do
    let v? ← rule.candidates.findM? fun fragment => ids.flatten.anyM (occursIn fragment)
    return v?.map fun v => (rule.field, .str v)
  let hasTests ← ids.flatten.anyM fun id => do
    if ← occursIn (text "testing") id then return true
    occursIn (text "tdd") id
  return picked.filterMap id ++ testField hasTests

end Stencil
