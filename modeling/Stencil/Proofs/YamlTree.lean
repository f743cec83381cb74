import Stencil.Proofs.Value.Fields
import Stencil.YamlTree

/-!
# Values of documents

The value of a tree is a tree of maps, and a plain value is found again in the tree that is made of
it.
-/

namespace Stencil.YamlTree

variable {entries : List (YamlKey × YamlTree)} {name : Text} {v : Value} {tree : YamlTree}

/-! ## Plain values -/

mutual

theorem keysDistinct_toValue (t : YamlTree) : (toValue t).keysDistinct = true := by
  cases t with
  | list items =>
    rw [toValue, Value.keysDistinct]
    exact itemsDistinct_toValues items
  | mapping entries =>
    rw [toValue, Value.keysDistinct_object]
    have hentries := Value.fieldsDistinct_iff.1 (fieldsDistinct_toPairs entries)
    exact ⟨Fields.nodup_keys_ofPairs, fun f hf => hentries f (Fields.mem_of_mem_ofPairs hf)⟩
  | _ => rfl

theorem itemsDistinct_toValues (ts : List YamlTree) :
    Value.itemsDistinct (toValues ts) = true := by
  cases ts with
  | nil => rfl
  | cons t ts =>
    rw [toValues, Value.itemsDistinct, keysDistinct_toValue t, itemsDistinct_toValues ts]
    rfl

theorem fieldsDistinct_toPairs (es : List (YamlKey × YamlTree)) :
    Value.fieldsDistinct (toPairs es) = true := by
  cases es with
  | nil => rfl
  | cons e es =>
    obtain ⟨key, t⟩ := e
    rw [toPairs, Value.fieldsDistinct, keysDistinct_toValue t, fieldsDistinct_toPairs es]
    rfl

end

mutual

theorem toValue_ofValue (v : Value) (h : v.keysDistinct = true) : toValue (ofValue v) = v := by
  cases v with
  | list items =>
    rw [Value.keysDistinct] at h
    rw [ofValue, toValue, toValues_ofValues items h]
  | object fields =>
    rw [Value.keysDistinct, Bool.and_eq_true, decide_eq_true_iff] at h
    rw [ofValue, toValue, toPairs_ofFields fields h.2, Fields.ofPairs_of_nodup h.1]
  | _ => rfl

theorem toValues_ofValues (vs : List Value) (h : Value.itemsDistinct vs = true) :
    toValues (ofValues vs) = vs := by
  cases vs with
  | nil => rfl
  | cons v vs =>
    rw [Value.itemsDistinct, Bool.and_eq_true] at h
    rw [ofValues, toValues, toValue_ofValue v h.1, toValues_ofValues vs h.2]

theorem toPairs_ofFields (fs : Fields) (h : Value.fieldsDistinct fs = true) :
    toPairs (ofFields fs) = fs := by
  cases fs with
  | nil => rfl
  | cons f fs =>
    obtain ⟨key, v⟩ := f
    rw [Value.fieldsDistinct, Bool.and_eq_true] at h
    rw [ofFields, toPairs, YamlKey.label, toValue_ofValue v h.1, toPairs_ofFields fs h.2]

end

mutual

theorem fault?_ofValue (v : Value) : fault? (ofValue v) = none := by
  cases v with
  | list items =>
    rw [ofValue, fault?]
    exact itemsFault?_ofValues items
  | object fields =>
    rw [ofValue, fault?]
    exact entriesFault?_ofFields fields
  | _ => rfl

theorem itemsFault?_ofValues (vs : List Value) : itemsFault? (ofValues vs) = none := by
  cases vs with
  | nil => rfl
  | cons v vs =>
    rw [ofValues, itemsFault?, fault?_ofValue v, itemsFault?_ofValues vs]
    rfl

theorem entriesFault?_ofFields (fs : Fields) : entriesFault? (ofFields fs) = none := by
  cases fs with
  | nil => rfl
  | cons f fs =>
    obtain ⟨key, v⟩ := f
    rw [ofFields, entriesFault?, fault?_ofValue v, entriesFault?_ofFields fs]
    rfl

end

/-! ## Entries -/

theorem mem_toPairs_iff {f : Text × Value} :
    f ∈ toPairs entries ↔ ∃ e ∈ entries, f = (e.1.label, toValue e.2) := by
  induction entries with
  | nil => simp [toPairs]
  | cons e entries ih => simp [toPairs, ih]

theorem entriesFault?_eq_none_iff :
    entriesFault? entries = none ↔ ∀ e ∈ entries, e.1.fault? = none ∧ fault? e.2 = none := by
  induction entries with
  | nil => simp [entriesFault?]
  | cons e entries ih => simp [entriesFault?, ih, Option.or_eq_none_iff, and_assoc]

theorem get?_ofPairs_toPairs (hmem : ∃ e ∈ entries, e.1.label = name)
    (h : ∀ e ∈ entries, e.1.label = name → toValue e.2 = v) :
    Fields.get? name (Fields.ofPairs (toPairs entries)) = some v := by
  rw [Fields.get?_ofPairs]
  cases hget : Fields.get? name (toPairs entries).reverse with
  | none =>
    obtain ⟨e, he, rfl⟩ := hmem
    have hkey := Fields.get?_eq_none_iff.1 hget
    exact absurd (List.mem_map_of_mem (List.mem_reverse.2 (mem_toPairs_iff.2 ⟨e, he, rfl⟩))) hkey
  | some w =>
    obtain ⟨e, he, heq⟩ := mem_toPairs_iff.1 (List.mem_reverse.1 (Fields.mem_of_get? hget))
    obtain ⟨hname, hvalue⟩ := Prod.mk.inj heq
    rw [hvalue, h e he hname.symm]

end Stencil.YamlTree
