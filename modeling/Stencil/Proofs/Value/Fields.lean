import Mathlib.Data.List.Nodup
import Stencil.Value

/-!
# Fields as ordered maps

A field that is set keeps its place, a new one goes last, and the other fields stay as they are.
Of pairs with one key the last one counts. A value is a tree of maps if no mapping in it has a key
twice.
-/

namespace Stencil

namespace Fields

variable {fields added pairs : Fields} {key name : Text} {v : Value}

/-! ## Keys -/

theorem contains_iff : contains key fields = true ↔ key ∈ keys fields := by
  induction fields with
  | nil => simp [contains, get?, keys]
  | cons f fields ih =>
    obtain ⟨k, w⟩ := f
    unfold contains keys at ih ⊢
    by_cases hk : k = key
    · simp [get?, hk]
    · simp [get?, hk, Ne.symm hk, ih]

theorem get?_eq_none_iff : get? key fields = none ↔ key ∉ keys fields := by
  rw [← contains_iff, contains, Bool.not_eq_true, Option.isSome_eq_false_iff,
    Option.isNone_iff_eq_none]

theorem lookup_eq_get? : fields.lookup key = get? key fields := by
  induction fields with
  | nil => rfl
  | cons f fields ih =>
    rw [List.lookup_cons, get?, ih, Bool.beq_comm]
    cases f.1 == key <;> rfl

theorem mem_of_get? (h : get? key fields = some v) : (key, v) ∈ fields := by
  induction fields with
  | nil => cases h
  | cons f fields ih =>
    obtain ⟨k, w⟩ := f
    unfold get? at h
    split at h
    · next hk =>
      obtain rfl := beq_iff_eq.1 hk
      obtain rfl := Option.some.inj h
      exact List.mem_cons_self
    · exact List.mem_cons_of_mem _ (ih h)

theorem get?_of_mem (h : (keys fields).Nodup) (hmem : (key, v) ∈ fields) :
    get? key fields = some v := by
  induction fields with
  | nil => cases hmem
  | cons f fields ih =>
    obtain ⟨k, w⟩ := f
    obtain ⟨hk, hfields⟩ := List.nodup_cons.1 h
    obtain heq | hmem := List.mem_cons.1 hmem
    · cases heq
      simp [get?]
    · have hne : k ≠ key := by
        rintro rfl
        have hkey := List.mem_map_of_mem (f := Prod.fst) hmem
        exact hk hkey
      simp [get?, hne, ih hfields hmem]

theorem insert_of_not_mem (h : key ∉ keys fields) :
    insert key v fields = fields ++ [(key, v)] := by
  induction fields with
  | nil => rfl
  | cons f fields ih =>
    obtain ⟨k, w⟩ := f
    obtain ⟨hk, hfields⟩ := not_or.1 (List.mem_cons.not.1 h)
    simp [insert, Ne.symm hk, ih hfields]

theorem keys_insert :
    keys (insert key v fields) =
      if key ∈ keys fields then keys fields else keys fields ++ [key] := by
  split
  · next h =>
    induction fields with
    | nil => cases h
    | cons f fields ih =>
      obtain ⟨k, w⟩ := f
      by_cases hk : k = key
      · simp [insert, keys, hk]
      · have hkey : key ∈ keys fields := (List.mem_cons.1 h).resolve_left (Ne.symm hk)
        simpa [insert, keys, hk] using ih hkey
  · next h => simp [insert_of_not_mem h, keys]

theorem nodup_keys_insert (h : (keys fields).Nodup) : (keys (insert key v fields)).Nodup := by
  rw [keys_insert]
  split
  · exact h
  · next hkey => exact h.append (List.nodup_singleton key) (by simpa using hkey)

theorem mem_of_mem_insert {f : Text × Value} (h : f ∈ insert key v fields) :
    f = (key, v) ∨ f ∈ fields := by
  induction fields with
  | nil => exact .inl (List.mem_singleton.1 h)
  | cons g fields ih =>
    unfold insert at h
    split at h
    · exact (List.mem_cons.1 h).imp_right (List.mem_cons_of_mem g)
    · obtain rfl | h := List.mem_cons.1 h
      · exact .inr List.mem_cons_self
      · exact (ih h).imp_right (List.mem_cons_of_mem g)

theorem sublist_erase : (erase key fields).Sublist fields := by
  induction fields with
  | nil => exact .slnil
  | cons f fields ih =>
    unfold erase
    split
    · exact List.sublist_cons_self f fields
    · exact ih.cons_cons f

/-! ## Values -/

theorem get?_insert :
    get? name (insert key v fields) = if key = name then some v else get? name fields := by
  induction fields with
  | nil => simp [insert, get?]
  | cons f fields ih =>
    obtain ⟨k, w⟩ := f
    by_cases hk : k = key
    · subst hk
      by_cases hname : k = name <;> simp [insert, get?, hname]
    · by_cases hname : k = name
      · subst hname
        simp [insert, get?, hk, Ne.symm hk]
      · simp [insert, get?, hk, hname, ih]

theorem insert_of_get? (h : get? key fields = some v) : insert key v fields = fields := by
  induction fields with
  | nil => cases h
  | cons f fields ih =>
    obtain ⟨k, w⟩ := f
    by_cases hk : k = key
    · subst hk
      simp [get?] at h
      simp [insert, h]
    · simp [get?, hk] at h
      simp [insert, hk, ih h]

theorem insert_insert {w : Value} :
    insert key v (insert key w fields) = insert key v fields := by
  induction fields with
  | nil => simp [insert]
  | cons f fields ih =>
    obtain ⟨k, u⟩ := f
    by_cases hk : k = key
    · simp [insert, hk]
    · simp [insert, hk, ih]

theorem get?_map {names : List Text} (f : Text → Value) (h : key ∈ names) :
    get? key (names.map fun name => (name, f name)) = some (f key) := by
  induction names with
  | nil => cases h
  | cons name names ih =>
    by_cases hname : name = key
    · simp [get?, hname]
    · simpa [get?, hname] using ih ((List.mem_cons.1 h).resolve_left (Ne.symm hname))

theorem get?_append : get? key (fields ++ added) = (get? key fields).or (get? key added) := by
  induction fields with
  | nil => simp [get?]
  | cons f fields ih =>
    by_cases hk : f.1 = key <;> simp [get?, hk, ih]

theorem get?_update :
    get? key (update fields added) = (get? key added.reverse).or (get? key fields) := by
  induction added generalizing fields with
  | nil => simp [update, get?]
  | cons f added ih =>
    have hstep : update fields (f :: added) = update (insert f.1 f.2 fields) added := rfl
    rw [hstep, ih, get?_insert, List.reverse_cons, get?_append, Option.or_assoc]
    congr 1
    by_cases hk : f.1 = key <;> simp [get?, hk]

theorem get?_ofPairs : get? key (ofPairs pairs) = get? key pairs.reverse := by
  rw [ofPairs, get?_update, get?, Option.or_none]

/-! ## Fields from pairs -/

theorem nodup_keys_update (h : (keys fields).Nodup) : (keys (update fields added)).Nodup := by
  induction added generalizing fields with
  | nil => exact h
  | cons f added ih => exact ih (nodup_keys_insert h)

theorem nodup_keys_ofPairs : (keys (ofPairs pairs)).Nodup := nodup_keys_update List.nodup_nil

theorem mem_of_mem_update {f : Text × Value} (h : f ∈ update fields added) :
    f ∈ added ∨ f ∈ fields := by
  induction added generalizing fields with
  | nil => exact .inr h
  | cons g added ih =>
    obtain h | h := ih h
    · exact .inl (List.mem_cons_of_mem g h)
    · obtain rfl | h := mem_of_mem_insert h
      · exact .inl List.mem_cons_self
      · exact .inr h

theorem mem_of_mem_ofPairs {f : Text × Value} (h : f ∈ ofPairs pairs) : f ∈ pairs :=
  (mem_of_mem_update h).resolve_right List.not_mem_nil

theorem ofPairs_of_nodup (h : (keys pairs).Nodup) : ofPairs pairs = pairs := by
  suffices hupdate : ∀ fields : Fields, (keys (fields ++ pairs)).Nodup →
      update fields pairs = fields ++ pairs from hupdate [] h
  clear h
  induction pairs with
  | nil => simp [update]
  | cons f pairs ih =>
    intro fields hnodup
    have hkey : f.1 ∉ keys fields := by
      have hdisjoint := List.disjoint_of_nodup_append (by simpa [keys] using hnodup)
      exact fun hmem => hdisjoint hmem List.mem_cons_self
    have hstep : update fields (f :: pairs) = update (insert f.1 f.2 fields) pairs := rfl
    rw [hstep, insert_of_not_mem hkey, ih, List.append_assoc, List.singleton_append]
    simpa using hnodup

end Fields

/-! ## Trees of maps -/

namespace Value

mutual

/-- Whether no mapping in a value has a key twice. -/
def keysDistinct : Value → Bool
  | list items => itemsDistinct items
  | object fields => decide (Fields.keys fields).Nodup && fieldsDistinct fields
  | _ => true

def itemsDistinct : List Value → Bool
  | [] => true
  | v :: vs => keysDistinct v && itemsDistinct vs

def fieldsDistinct : List (Text × Value) → Bool
  | [] => true
  | (_, v) :: fields => keysDistinct v && fieldsDistinct fields

end

theorem itemsDistinct_iff {items : List Value} :
    itemsDistinct items = true ↔ ∀ v ∈ items, keysDistinct v = true := by
  induction items with
  | nil => simp [itemsDistinct]
  | cons v vs ih => simp [itemsDistinct, ih]

theorem fieldsDistinct_iff {fields : Fields} :
    fieldsDistinct fields = true ↔ ∀ f ∈ fields, keysDistinct f.2 = true := by
  induction fields with
  | nil => simp [fieldsDistinct]
  | cons f fields ih => simp [fieldsDistinct, ih]

theorem keysDistinct_object {fields : Fields} :
    keysDistinct (object fields) = true ↔
      (Fields.keys fields).Nodup ∧ ∀ f ∈ fields, keysDistinct f.2 = true := by
  rw [keysDistinct, Bool.and_eq_true, decide_eq_true_iff, fieldsDistinct_iff]

variable {fields : Fields} {key : Text} {v : Value}

theorem keysDistinct_insert (h : keysDistinct (object fields) = true)
    (hv : keysDistinct v = true) : keysDistinct (object (Fields.insert key v fields)) = true := by
  rw [keysDistinct_object] at h ⊢
  refine ⟨Fields.nodup_keys_insert h.1, fun f hf => ?_⟩
  obtain rfl | hf := Fields.mem_of_mem_insert hf
  · exact hv
  · exact h.2 f hf

theorem keysDistinct_erase (h : keysDistinct (object fields) = true) :
    keysDistinct (object (Fields.erase key fields)) = true := by
  rw [keysDistinct_object] at h ⊢
  exact ⟨h.1.sublist (Fields.sublist_erase.map Prod.fst),
    fun f hf => h.2 f (Fields.sublist_erase.subset hf)⟩

end Value

end Stencil
