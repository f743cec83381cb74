import Stencil.Proofs.Context
import Stencil.Proofs.Project.Loading
import Stencil.Yaml

/-!
# Contexts of loaded projects

Whatever the configuration of a project is, its context is what is built from that and the variables
of its settings, and nothing else.
-/

namespace Stencil.Project

variable {yaml : YamlLibrary} {disk : Disk} {root : Path} {config : Option Fields}
  {s : Settings} {name : Text}

theorem nodup_custom_of_loadSettings (h : loadSettings yaml disk root = .ok s) :
    (Fields.keys s.custom).Nodup :=
  (Value.keysDistinct_object.1 (isNormal_of_loadSettings h).custom).1

theorem keys_contextOf (h : (Fields.keys s.custom).Nodup) :
    Fields.keys (contextOf config s) = Fields.keys (buildContext (config.getD [])) := by
  have hcustom : customName ∈ Fields.keys (buildContext (config.getD [])) := by
    rw [← Fields.contains_iff, Fields.contains, get?_buildContext]
    rfl
  rw [contextOf_eq h, Fields.keys_insert, if_pos hcustom]

theorem get?_contextOf_of_ne (h : (Fields.keys s.custom).Nodup) (hname : name ≠ customName) :
    Fields.get? name (contextOf config s) =
      Fields.get? name (buildContext (config.getD [])) := by
  rw [contextOf_eq h, Fields.get?_insert, if_neg (Ne.symm hname)]

/-- The context of a project has the sections that its configuration makes, in the same order, and
the variables of its settings in the section of the free ones, which are added one by one as if
at once. Its modules are those of the configuration. -/
theorem contextOf_sections (hs : loadSettings yaml disk root = .ok s) (config : Option Fields) :
    let built := buildContext (config.getD [])
    let context := contextOf config s
    (loadConfig disk root = .ok config →
      load yaml disk root = .ok ⟨context, s, config.isSome⟩) ∧
    Fields.keys context = Fields.keys built ∧
    (∀ name, name ≠ customName → Fields.get? name context = Fields.get? name built) ∧
    Fields.get? customName context = some (.object s.custom) ∧
    s.custom.foldl (fun c field => addVariable c field.1 field.2) built =
      extendContext built [(customName, .object s.custom)] ∧
    (∀ fields, config = some fields → allModules context = allModules fields) ∧
    ∀ c ids, (hasAnyModule c ids = true ↔ ∃ id ∈ ids, hasModule c id = true) ∧
      (hasAllModules c ids = true ↔ ∀ id ∈ ids, hasModule c id = true) := by
  have hnodup := nodup_custom_of_loadSettings hs
  refine ⟨fun hconfig => ?_, keys_contextOf hnodup, fun name => get?_contextOf_of_ne hnodup,
    get?_contextOf hnodup, addVariables_eq_extendContext (get?_buildContext _), ?_,
    fun c ids => ⟨hasAnyModule_iff, hasAllModules_iff⟩⟩
  · exact load_eq_ok_iff.2 ⟨config, s, hconfig, hs, rfl⟩
  · rintro fields rfl
    have hmodules : text "modules" ≠ customName := by decide
    rw [allModules_congr (get?_contextOf_of_ne hnodup hmodules), Option.getD_some,
      allModules_buildContext]

def workshop : Disk where
  files := [(settingsPath [], Utf8.ofText (text "custom: \x7bb: 1, a: x\x7d\n"))]
  folders := []

def tools : Fields :=
  [(text "modules", .object [(text "docs", .int 3),
    (text "agents", .object [(text "selected", .list [.str (text "react"), .null])]),
    (text "skills", .list [.int 1])])]

theorem contextOf_sections_workshop :
    ∃ s, loadSettings Yaml.library workshop [] = .ok s ∧
      Fields.get? customName (contextOf (some tools) s) =
        some (.object [(text "b", .int 1), (text "a", .str (text "x"))]) ∧
      allModules (contextOf (some tools) s) = [text "react", text "None", text "1"] := by
  have hload : (loadSettings Yaml.library workshop []).map (·.custom) =
      .ok [(text "b", .int 1), (text "a", .str (text "x"))] := by decide +kernel
  have htools : allModules tools = [text "react", text "None", text "1"] := by decide +kernel
  obtain ⟨s, hs, hcustom⟩ := Outcome.map_eq_ok_iff.1 hload
  obtain ⟨-, -, -, hfree, -, hmodules, -⟩ := contextOf_sections hs (some tools)
  exact ⟨s, hs, hcustom ▸ hfree, (hmodules tools rfl).trans htools⟩

end Stencil.Project
