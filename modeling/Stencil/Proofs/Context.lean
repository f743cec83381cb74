import Stencil.Project
import Stencil.Proofs.Value.Fields

/-!
# Contexts

The section of the free variables in the context of a project is what its settings hold, and the
other sections are those of its configuration. The modules of a context are those that its
configuration selects.
-/

namespace Stencil

variable {context inner custom config : Fields} {key name : Text} {v : Value} {ids ids' : List Text}

/-! ## Free variables -/

theorem addVariable_eq (h : Fields.get? customName context = some (.object inner)) :
    addVariable context key v =
      Fields.insert customName (.object (Fields.insert key v inner)) context := by
  rw [addVariable, extendContext, List.foldl_cons, List.foldl_nil, addSection, h]
  rfl

/-- Adding variables one after the other is merging them into their section at once. -/
theorem addVariables_eq (h : Fields.get? customName context = some (.object inner)) :
    addVariables context custom =
      Fields.insert customName (.object (Fields.update inner custom)) context := by
  induction custom generalizing context inner with
  | nil => exact (Fields.insert_of_get? h).symm
  | cons f custom ih =>
    have hstep : addVariables context (f :: custom) =
        addVariables (addVariable context f.1 f.2) custom := rfl
    have hsection : Fields.get? customName (addVariable context f.1 f.2) =
        some (.object (Fields.insert f.1 f.2 inner)) := by
      rw [addVariable_eq h, Fields.get?_insert, if_pos rfl]
    rw [hstep, ih hsection, addVariable_eq h, Fields.insert_insert]
    rfl

theorem addVariables_eq_extendContext
    (h : Fields.get? customName context = some (.object inner)) :
    addVariables context custom = extendContext context [(customName, .object custom)] := by
  rw [addVariables_eq h, extendContext, List.foldl_cons, List.foldl_nil, addSection, h]
  rfl

theorem get?_buildContext (config : Fields) :
    Fields.get? customName (buildContext config) = some (.object []) := rfl

theorem Project.contextOf_eq {config : Option Fields} {s : Settings}
    (h : (Fields.keys s.custom).Nodup) :
    contextOf config s =
      Fields.insert customName (.object s.custom) (buildContext (config.getD [])) := by
  rw [contextOf, addVariables_eq (get?_buildContext _)]
  congr 2
  exact Fields.ofPairs_of_nodup h

theorem Project.get?_contextOf {config : Option Fields} {s : Settings}
    (h : (Fields.keys s.custom).Nodup) :
    Fields.get? customName (contextOf config s) = some (.object s.custom) := by
  rw [contextOf_eq h, Fields.get?_insert, if_pos rfl]

/-! ## Modules -/

theorem selectedIds_idList (ids : List Text) : selectedIds (idList ids) = ids := by
  have hlabel : ∀ id ∈ ids, (Value.label ∘ Value.str) id = id := fun _ _ => rfl
  simp only [selectedIds, idList, List.map_map]
  rw [List.map_congr_left hlabel, List.map_id']

theorem idList_inj (h : idList ids = idList ids') : ids = ids' := by
  rw [← selectedIds_idList ids, h, selectedIds_idList]

theorem allModules_congr
    (h : Fields.get? (text "modules") context = Fields.get? (text "modules") config) :
    allModules context = allModules config := by
  rw [allModules, allModules, Fields.within, Fields.within, h]

theorem allModules_buildContext (config : Fields) :
    allModules (buildContext config) = allModules config := by
  have hmodules : Fields.within (text "modules") (buildContext config) =
      moduleCategories.map fun category =>
        (category, idList (idsIn category (Fields.within (text "modules") config))) := rfl
  rw [allModules, allModules, idsByCategory, idsByCategory, hmodules]
  refine List.flatMap_congr fun category hcategory => ?_
  rw [Fields.get?_map _ hcategory, Option.map_some, Option.getD_some, selectedIds_idList]
  rfl

theorem hasAnyModule_iff :
    hasAnyModule context ids = true ↔ ∃ id ∈ ids, hasModule context id = true :=
  List.any_eq_true

theorem hasAllModules_iff :
    hasAllModules context ids = true ↔ ∀ id ∈ ids, hasModule context id = true :=
  List.all_eq_true

end Stencil
