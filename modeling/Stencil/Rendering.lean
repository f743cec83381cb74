import Stencil.Condition.Reading
import Stencil.Condition.Truth
import Stencil.Template.Parsing
import Stencil.Template.Reference
import Stencil.Text.Lines
import Stencil.Transform

/-!
# Rendering

Nodes are rendered in a scope. What is odd about a template or a context becomes a warning; only
a text that looks like a number and is none, or a value that cannot be written, stops the run.
-/

namespace Stencil

/-! ## Warnings -/

/-- What is odd, but does not stop a run. -/
inductive Warning where
  | includeUnsupported (name : Text)
  | pathNotFound (path : Text)
  | severalTransforms (path transform : Text)
  | unknownTransform (name : Text)
  | notIterable (path : Text)
  | invalidCondition (tag : Tag) (argument : Text) (fault : ConditionFault)
  deriving DecidableEq, Repr

namespace Warning

def message : Warning → Text
  | includeUnsupported name => text "Include directive not supported: " ++ name
  | pathNotFound path => text "Variable not found: " ++ path
  | severalTransforms path transform =>
    text "Only one transform is allowed: " ++ openBraces ++ path ++ text " | " ++ transform ++
      closeBraces
  | unknownTransform name => text "Unknown transform: " ++ name
  | notIterable path =>
    text "Cannot iterate over " ++ path ++ text ": value is not a list or mapping"
  | invalidCondition tag argument fault =>
    text "Invalid expression in " ++ openBraces ++ [chr '#'] ++ tag.name ++ [chr ' '] ++ argument ++
      closeBraces ++ text ": " ++ fault.message

end Warning

/-! ## What a run puts out -/

/-- The text of some nodes, how many blocks and references were met on the way, and the warnings
in order. -/
structure Rendering where
  text : Text
  directives : Nat
  warnings : List Warning

namespace Rendering

def empty : Rendering := ⟨[], 0, []⟩

def append (a b : Rendering) : Rendering :=
  ⟨a.text ++ b.text, a.directives + b.directives, a.warnings ++ b.warnings⟩

instance : Append Rendering := ⟨append⟩

def plain (body : Text) : Rendering := ⟨body, 0, []⟩

def warning (w : Warning) : Rendering := ⟨[], 0, [w]⟩

def counted (r : Rendering) : Rendering := { r with directives := r.directives + 1 }

def concat (rs : List Rendering) : Rendering := rs.foldr append empty

end Rendering

/-! ## Text -/

def Transform.rendered (t : Transform) (v : Value) : Except ConversionError Rendering :=
  match t.fault? v with
  | some e => .error e
  | none => .ok (.plain (t.apply v))

def Reference.render (scope : Scope) (r : Reference) : Except ConversionError Rendering := do
  match ← scope.lookup r.path with
  | none => return .warning (.pathNotFound r.path)
  | some v =>
    match r.transform? with
    | none => return .plain (← Value.written (some v))
    | some name =>
      if name.contains '|' then
        return ⟨← Value.written (some v), 0, [.severalTransforms r.path name]⟩
      else match Transform.ofName? name with
        | none => return ⟨← Value.written (some v), 0, [.unknownTransform name]⟩
        | some t => t.rendered v

/-- What a segment becomes; a reference counts as a directive. -/
def Segment.render (scope : Scope) : Segment → Except ConversionError Rendering
  | plain body => .ok (.plain body)
  | reference inner => do return (← (Reference.ofInner inner).render scope).counted

/-- Replaces the references of a text. Its includes are reported first and stay. -/
def renderText (scope : Scope) (body : Text) : Except ConversionError Rendering := do
  let parts ← (Segment.ofText false body).mapM (Segment.render scope)
  return ⟨[], 0, (includes body).map .includeUnsupported⟩ ++ .concat parts

/-! ## Nodes -/

/-- The warning about a loop over a value that has no entries and cannot have any. -/
def loopWarning (path : Text) : Option Value → Rendering
  | none | some .null | some (.list _) | some (.object _) => .empty
  | some _ => .warning (.notIterable path)

/-- Renders a body if the condition of its block comes out as wanted. -/
def renderIf (wanted : Bool) (tag : Tag) (argument : Text)
    (body : Scope → Except ConversionError Rendering) (scope : Scope) :
    Except ConversionError Rendering :=
  match Condition.read argument with
  | .error e => .ok (.warning (.invalidCondition tag argument e.fault))
  | .ok condition => do
    if (← condition.holds scope) == wanted then body scope else return .empty

mutual

def Node.render : Node → Scope → Except ConversionError Rendering
  | .plain body, scope => renderText scope body
  | .block tag inner children _, scope => do
    let argument := Text.trim inner
    let body ← match tag with
      | .region => renderNodes children scope
      | .each => do
        let value ← scope.lookup argument
        let turns ← ((value.map Entry.ofValue).getD []).mapM fun entry =>
          renderNodes children (.loop scope entry)
        pure (loopWarning argument value ++ .concat turns)
      | .when => renderIf true tag argument (renderNodes children) scope
      | .whenNot => renderIf false tag argument (renderNodes children) scope
    return body.counted

def renderNodes : List Node → Scope → Except ConversionError Rendering
  | [], _ => .ok .empty
  | node :: nodes, scope => do
    let a ← node.render scope
    let b ← renderNodes nodes scope
    return a ++ b

end

/-! ## Templates -/

/-- The outcome for one template. Without a directive, or with an error, the content is the
template itself. -/
structure Rendered where
  content : Text
  modified : Bool
  directives : Nat
  warnings : List Warning
  errors : List TemplateError

namespace Rendered

def isOk (r : Rendered) : Bool := r.errors.isEmpty

/-- The outcome of a run over all nodes of a template; each warning is kept once. -/
def ofRendering (template : Text) (r : Rendering) : Rendered where
  content := if r.directives == 0 then template else Text.squeezeBlankLines r.text
  modified := r.directives != 0
  directives := r.directives
  warnings := r.warnings.eraseDups
  errors := []

end Rendered

def render (template : Text) (context : Fields) : Except ConversionError Rendered :=
  match Node.parse template with
  | .error e => .ok ⟨template, false, 0, [], [e]⟩
  | .ok nodes => do return .ofRendering template (← renderNodes nodes (.base context))

/-- The errors of a template that need no context to be seen. -/
def templateErrors (template : Text) : List TemplateError :=
  match Node.parse template with
  | .error e => [e]
  | .ok _ => []

end Stencil
