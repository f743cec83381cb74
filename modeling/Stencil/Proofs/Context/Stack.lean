import Mathlib.Data.List.Nodup
import Mathlib.Data.Nat.Find
import Stencil.Proofs.Context
import Stencil.Proofs.Outcome
import Stencil.Proofs.Text.Parts
import Stencil.Proofs.Value.Fields

/-!
# What ids tell of the stack

Each field of the stack has hints in order, which are fragments of ids with the values that they
tell of. It takes the value of the first hint whose fragment occurs in some id. So only the set of
the ids counts, and more ids tell of the same fields and maybe of others, by the same hints or by
earlier ones.
-/

namespace Stencil

open Outcome

variable {modules others : Fields} {ids ids' : List Text} {name id fragment : Text}

/-! ## Selections of modules -/

/-- Each category that a selection has is a list of ids. -/
def IsSelection (modules : Fields) : Prop :=
  ∀ category ∈ moduleCategories, ∀ v, Fields.get? category modules = some v →
    ∃ ids, v = idList ids

/-- Some category of a selection lists the id. -/
def Selects (modules : Fields) (id : Text) : Prop :=
  ∃ category ∈ moduleCategories, ∃ ids,
    Fields.get? category modules = some (idList ids) ∧ id ∈ ids

theorem mem_idsByCategory_iff (h : IsSelection modules) :
    id ∈ idsByCategory selectedIds modules ↔ Selects modules id := by
  rw [idsByCategory, List.mem_flatMap]
  refine exists_congr fun category => and_congr_right fun hcategory => ?_
  cases hget : Fields.get? category modules with
  | none => simp
  | some v =>
    obtain ⟨ids, rfl⟩ := h category hcategory v hget
    rw [Option.map_some, Option.getD_some, selectedIds_idList]
    constructor
    · intro hmem
      exact ⟨ids, rfl, hmem⟩
    · rintro ⟨ids', hids, hmem⟩
      rwa [idList_inj (Option.some.inj hids)]

theorem isSelection_idList (lists : List (Text × List Text)) :
    IsSelection (lists.map fun entry => (entry.1, idList entry.2)) := by
  intro category _ v hget
  obtain ⟨entry, -, heq⟩ := List.mem_map.1 (Fields.mem_of_get? hget)
  exact ⟨entry.2, (congrArg Prod.snd heq).symm⟩

/-! ## The stack of a selection -/

theorem occurs_iff : occurs ids fragment = true ↔ ∃ id ∈ ids, fragment <:+: id := by
  simp only [occurs, List.any_eq_true, Text.has_iff]

theorem anyM_occursIn (ids : List Text) (fragment : Text) :
    (ids.map Value.str).anyM (occursIn fragment) = pure (occurs ids fragment) := by
  rw [anyM_map]
  exact List.anyM_pure

/-- Looking for either of two fragments in one id after the other, or for each in all of them. -/
theorem anyM_occursIn_either (ids : List Text) (a b : Text) :
    ((ids.map Value.str).anyM fun id => do
      if ← occursIn a id then return true
      occursIn b id) = pure (occurs ids a || occurs ids b) := by
  have heither : ∀ id, (do
      if ← occursIn a (.str id) then return true
      occursIn b (.str id)) = (pure (Text.has a id || Text.has b id) : Except StackError Bool) := by
    intro id
    cases ha : Text.has a id <;> simp [occursIn, ha, bind, Except.bind, pure, Except.pure]
  have hany : (ids.any fun id => Text.has a id || Text.has b id) =
      (occurs ids a || occurs ids b) := by
    rw [Bool.eq_iff_iff]
    simp only [occurs, List.any_eq_true, Bool.or_eq_true, and_or_left, exists_or]
  rw [anyM_map]
  simp only [heither]
  rw [List.anyM_pure, hany]

theorem exists_listed {categories : List Text}
    (h : ∀ category ∈ categories, ∀ v, Fields.get? category modules = some v →
      ∃ ids, v = idList ids) :
    ∃ items, (categories.filterMap (Fields.get? · modules)).mapM listed = pure items ∧
      items.flatten = (categories.flatMap fun category =>
        ((Fields.get? category modules).map selectedIds).getD []).map .str := by
  induction categories with
  | nil => exact ⟨[], rfl, rfl⟩
  | cons category categories ih =>
    obtain ⟨hfirst, hrest⟩ := List.forall_mem_cons.1 h
    obtain ⟨items, hitems, hflatten⟩ := ih hrest
    cases hget : Fields.get? category modules with
    | none => exact ⟨items, by simpa [hget] using hitems, by simpa [hget] using hflatten⟩
    | some v =>
      obtain ⟨ids, rfl⟩ := hfirst v hget
      refine ⟨ids.map .str :: items, ?_, ?_⟩
      · simp only [List.filterMap_cons, hget, List.mapM_cons, hitems]
        rfl
      · simp [hget, hflatten, selectedIds_idList]

theorem inferStackOf_eq (h : IsSelection modules) :
    inferStackOf modules = .ok (inferStack (idsByCategory selectedIds modules)) := by
  obtain ⟨items, hitems, hflatten⟩ := exists_listed h
  rw [← idsByCategory] at hflatten
  simp only [inferStackOf, hitems, pure_bind, hflatten, anyM_occursIn, anyM_occursIn_either,
    List.findM?_pure, List.mapM_pure]
  rw [List.filterMap_map]
  rfl

/-! ## Hints -/

/-- A fragment of ids and the value that it tells of. -/
structure Hint where
  fragment : Text
  value : Text

def testHints : List Hint :=
  [⟨text "testing", text "vitest"⟩, ⟨text "tdd", text "vitest"⟩]

/-- The fields of the stack with their hints, the earlier ones of which win. -/
def stackHints : List (Text × List Hint) :=
  stackRules.map (fun rule => (rule.field, rule.candidates.map fun c => ⟨c, c⟩)) ++
    [(text "testing", testHints)]

def hinted? (ids : List Text) (hints : List Hint) : Option Value :=
  (hints.find? fun hint => occurs ids hint.fragment).map fun hint => .str hint.value

theorem hinted?_candidates (rule : StackRule) :
    hinted? ids (rule.candidates.map fun c => ⟨c, c⟩) = (rule.pick? ids).map .str := by
  rw [hinted?, List.find?_map, Option.map_map, StackRule.pick?]
  rfl

theorem testField_eq (ids : List Text) :
    testField (hasTests ids) =
      [(text "testing", testHints)].filterMap fun field =>
        (hinted? ids field.2).map fun v => (field.1, v) := by
  unfold hasTests
  cases h : occurs ids (text "testing") <;> cases h' : occurs ids (text "tdd") <;>
    simp [hinted?, testHints, List.find?, h, h', testField]

theorem inferStack_eq (ids : List Text) :
    inferStack ids =
      stackHints.filterMap fun field => (hinted? ids field.2).map fun v => (field.1, v) := by
  rw [inferStack, stackHints, List.filterMap_append, List.filterMap_map, testField_eq]
  congr 1
  refine List.filterMap_congr fun rule _ => ?_
  rw [Function.comp_apply, hinted?_candidates, Option.map_map]
  rfl

theorem sublist_keys_filterMap {α : Type} (f : α → Option Value) (l : List (Text × α)) :
    (Fields.keys (l.filterMap fun x => (f x.2).map fun v => (x.1, v))).Sublist
      (l.map Prod.fst) := by
  induction l with
  | nil => exact .slnil
  | cons x l ih =>
    cases hx : f x.2 with
    | none => simpa [hx] using ih.cons x.1
    | some v => simpa [hx, Fields.keys] using ih

theorem get?_inferStack_iff {v : Value} :
    Fields.get? name (inferStack ids) = some v ↔
      ∃ hints, (name, hints) ∈ stackHints ∧ hinted? ids hints = some v := by
  have hnames : (stackHints.map Prod.fst).Nodup := by decide
  have hnodup := hnames.sublist (sublist_keys_filterMap (hinted? ids) stackHints)
  rw [← inferStack_eq] at hnodup
  constructor
  · intro h
    have hmem := Fields.mem_of_get? h
    rw [inferStack_eq, List.mem_filterMap] at hmem
    obtain ⟨⟨field, hints⟩, hfield, hvalue⟩ := hmem
    obtain ⟨w, hw, heq⟩ := Option.map_eq_some_iff.1 hvalue
    cases heq
    exact ⟨hints, hfield, hw⟩
  · rintro ⟨hints, hfield, hvalue⟩
    refine Fields.get?_of_mem hnodup ?_
    rw [inferStack_eq, List.mem_filterMap]
    exact ⟨(name, hints), hfield, by rw [hvalue, Option.map_some]⟩

/-! ## The first hint -/

/-- The selected ids tell of the hint: its fragment occurs in one of them. -/
def Hint.IsTold (modules : Fields) (hint : Hint) : Prop :=
  ∃ id, Selects modules id ∧ hint.fragment <:+: id

/-- The hint at this place is the first one that the selected ids tell of. -/
structure IsFirst (modules : Fields) (hints : List Hint) (i : Nat) (hint : Hint) : Prop where
  stands : hints[i]? = some hint
  isTold : hint.IsTold modules
  first : ∀ j < i, ∀ earlier, hints[j]? = some earlier → ¬earlier.IsTold modules

/-- Hints of the field tell of both values, and that of `w` stands no later than that of `v`. -/
def StandsNoLater (field : Text) (w v : Value) : Prop :=
  ∃ (hints : List Hint) (j i : Nat) (hint' hint : Hint), (field, hints) ∈ stackHints ∧ j ≤ i ∧
    hints[j]? = some hint' ∧ w = .str hint'.value ∧ hints[i]? = some hint ∧ v = .str hint.value

theorem occurs_eq_true_iff (h : IsSelection modules) {hint : Hint} :
    occurs (idsByCategory selectedIds modules) hint.fragment = true ↔ hint.IsTold modules := by
  simp only [occurs_iff, mem_idsByCategory_iff h, Hint.IsTold]

/-- A field takes the value of the first hint that the selected ids tell of. -/
theorem hinted?_eq_some_iff (h : IsSelection modules) {hints : List Hint} {v : Value} :
    hinted? (idsByCategory selectedIds modules) hints = some v ↔
      ∃ i hint, IsFirst modules hints i hint ∧ v = .str hint.value := by
  rw [hinted?, Option.map_eq_some_iff]
  constructor
  · rintro ⟨hint, hfind, rfl⟩
    obtain ⟨hhint, i, hi, hstands, hnone⟩ := List.find?_eq_some_iff_getElem.1 hfind
    refine ⟨i, hint, ⟨?_, (occurs_eq_true_iff h).1 hhint, ?_⟩, rfl⟩
    · rw [List.getElem?_eq_getElem hi, hstands]
    · intro j hj earlier hearlier htold
      obtain ⟨hlt, rfl⟩ := List.getElem?_eq_some_iff.1 hearlier
      have hmiss := hnone j hj
      rw [(occurs_eq_true_iff h).2 htold] at hmiss
      cases hmiss
  · rintro ⟨i, hint, hfirst, rfl⟩
    obtain ⟨hi, hstands⟩ := List.getElem?_eq_some_iff.1 hfirst.stands
    refine ⟨hint, List.find?_eq_some_iff_getElem.2
      ⟨(occurs_eq_true_iff h).2 hfirst.isTold, i, hi, hstands, fun j hj => ?_⟩, rfl⟩
    rw [Bool.not_eq_true', Bool.eq_false_iff]
    intro hhit
    exact hfirst.first j hj _ (List.getElem?_eq_getElem _) ((occurs_eq_true_iff h).1 hhit)

theorem IsFirst.exists_le {hints : List Hint} {i : Nat} {hint : Hint}
    (h : IsFirst modules hints i hint) (hsub : ∀ id, Selects modules id → Selects others id) :
    ∃ j ≤ i, ∃ hint', IsFirst others hints j hint' := by
  classical
  obtain ⟨id, hid, hinfix⟩ := h.isTold
  have hi : ∃ hint' : Hint, hints[i]? = some hint' ∧ hint'.IsTold others :=
    ⟨hint, h.stands, id, hsub id hid, hinfix⟩
  have hexists : ∃ (j : Nat) (hint' : Hint), hints[j]? = some hint' ∧ hint'.IsTold others := ⟨i, hi⟩
  obtain ⟨hint', hstands, htold⟩ := Nat.find_spec hexists
  refine ⟨Nat.find hexists, Nat.find_min' hexists hi, hint', hstands, htold, ?_⟩
  intro j hj earlier hearlier hearlierTold
  exact Nat.find_min hexists hj ⟨earlier, hearlier, hearlierTold⟩

/-! ## Stacks of selections -/

theorem get?_inferStackOf_iff (h : IsSelection modules) {stack : Fields}
    (hstack : inferStackOf modules = .ok stack) {v : Value} :
    Fields.get? name stack = some v ↔
      ∃ hints i hint, (name, hints) ∈ stackHints ∧ IsFirst modules hints i hint ∧
        v = .str hint.value := by
  obtain rfl := Except.ok.inj (hstack.symm.trans (inferStackOf_eq h))
  simp only [get?_inferStack_iff, hinted?_eq_some_iff h, exists_and_left]

theorem inferStack_congr (h : ∀ id, id ∈ ids ↔ id ∈ ids') : inferStack ids = inferStack ids' := by
  have hoccurs : occurs ids = occurs ids' := by
    funext fragment
    rw [Bool.eq_iff_iff]
    simp only [occurs_iff, h]
  rw [inferStack_eq, inferStack_eq]
  simp only [hinted?, hoccurs]

/-- The stack of a selection depends on the set of its ids only. With more ids each field that is
there stays, with the same value or one of an earlier hint. A value is always that of the first hint
whose fragment occurs in some id. -/
theorem inferStackOf_selections (h : IsSelection modules) (h' : IsSelection others) :
    ∃ stack stack', inferStackOf modules = .ok stack ∧ inferStackOf others = .ok stack' ∧
      ((∀ id, Selects modules id ↔ Selects others id) → stack = stack') ∧
      ((∀ id, Selects modules id → Selects others id) → ∀ field v,
        Fields.get? field stack = some v →
        ∃ w, Fields.get? field stack' = some w ∧ StandsNoLater field w v) ∧
      ∀ field v, Fields.get? field stack = some v ↔
        ∃ hints i hint, (field, hints) ∈ stackHints ∧ IsFirst modules hints i hint ∧
          v = .str hint.value := by
  have hstack := inferStackOf_eq h
  have hstack' := inferStackOf_eq h'
  refine ⟨_, _, hstack, hstack', fun hsame => ?_, fun hsub field v hv => ?_,
    fun field v => get?_inferStackOf_iff h hstack⟩
  · refine inferStack_congr fun id => ?_
    rw [mem_idsByCategory_iff h, mem_idsByCategory_iff h', hsame]
  · obtain ⟨hints, i, hint, hfield, hfirst, rfl⟩ := (get?_inferStackOf_iff h hstack).1 hv
    obtain ⟨j, hle, hint', hfirst'⟩ := hfirst.exists_le hsub
    have hvalue := (get?_inferStackOf_iff h' hstack').2 ⟨hints, j, hint', hfield, hfirst', rfl⟩
    exact ⟨_, hvalue, hints, j, i, hint', hint, hfield, hle, hfirst'.stands, rfl, hfirst.stands,
      rfl⟩

theorem inferStackOf_selections_nextjs :
    let modules := [(text "agents", idList [text "react-pro"])]
    let others := [(text "docs", idList [text "tdd", text "react-pro"]),
      (text "skills", idList [text "my-nextjs", text "react-pro"])]
    IsSelection modules ∧ IsSelection others ∧ (∀ id, Selects modules id → Selects others id) ∧
      inferStackOf modules = .ok [(text "framework", .str (text "react"))] ∧
      inferStackOf others = .ok [(text "framework", .str (text "nextjs")),
        (text "testing", .str (text "vitest"))] ∧
      StandsNoLater (text "framework") (.str (text "nextjs")) (.str (text "react")) := by
  intro modules others
  have h : IsSelection modules := isSelection_idList [(text "agents", [text "react-pro"])]
  have h' : IsSelection others := isSelection_idList [(text "docs", [text "tdd", text "react-pro"]),
    (text "skills", [text "my-nextjs", text "react-pro"])]
  have hsub : ∀ id, Selects modules id → Selects others id := by
    intro id
    rw [← mem_idsByCategory_iff h, ← mem_idsByCategory_iff h']
    have hids : idsByCategory selectedIds modules = [text "react-pro"] := by decide
    have hids' : idsByCategory selectedIds others =
        [text "my-nextjs", text "react-pro", text "tdd", text "react-pro"] := by decide
    rw [hids, hids']
    intro hid
    exact List.mem_of_mem_tail (List.mem_cons.2 (.inl (List.mem_singleton.1 hid)))
  obtain ⟨stack, stack', hstack, hstack', -, hmore, -⟩ := inferStackOf_selections h h'
  have hreact : inferStackOf modules = .ok [(text "framework", .str (text "react"))] := rfl
  have hnextjs : inferStackOf others = .ok [(text "framework", .str (text "nextjs")),
    (text "testing", .str (text "vitest"))] := rfl
  refine ⟨h, h', hsub, hreact, hnextjs, ?_⟩
  obtain rfl := Except.ok.inj (hreact.symm.trans hstack)
  obtain rfl := Except.ok.inj (hnextjs.symm.trans hstack')
  obtain ⟨w, hw, hearlier⟩ := hmore hsub (text "framework") (.str (text "react")) rfl
  obtain rfl := Option.some.inj hw
  exact hearlier

end Stencil
