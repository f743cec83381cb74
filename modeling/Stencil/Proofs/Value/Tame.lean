import Stencil.Condition.Truth
import Stencil.Proofs.Numeral

/-!
# Tame values

A value with clean texts and without integers that are too long can be written, and so can
whatever a path leads to in it.
-/

namespace Stencil

open Outcome Numeral

namespace Value

mutual

/-- Whether a value and all inside it can be written and compared: no integer or size is too long,
every text is clean, and there is no bare sign. -/
def isTame : Value → Bool
  | null | bool _ | float _ => true
  | int n => !isTooLong n
  | str s => Numeral.isClean s && !isTooLong s.length
  | sign _ => false
  | list items => itemsTame items && !isTooLong items.length
  | object fields => fieldsTame fields && !isTooLong fields.length

def itemsTame : List Value → Bool
  | [] => true
  | v :: vs => isTame v && itemsTame vs

def fieldsTame : List (Text × Value) → Bool
  | [] => true
  | (k, v) :: fields =>
    Numeral.isClean k && !isTooLong k.length && isTame v && fieldsTame fields

end

theorem itemsTame_iff {items : List Value} :
    itemsTame items = true ↔ ∀ v ∈ items, isTame v = true := by
  induction items with
  | nil => simp [itemsTame]
  | cons v vs ih => simp [itemsTame, ih]

theorem fieldsTame_iff {fields : Fields} :
    fieldsTame fields = true ↔
      ∀ f ∈ fields, isTame (.str f.1) = true ∧ isTame f.2 = true := by
  induction fields with
  | nil => simp [fieldsTame]
  | cons f fields ih => simp [fieldsTame, isTame, ih, and_assoc]

mutual

theorem jsonFault?_eq_none : (v : Value) → isTame v = true → jsonFault? v = none
  | null | bool _ | float _ | str _ => fun _ => by simp [jsonFault?]
  | int n => fun h => by
    rw [isTame, Bool.not_eq_true'] at h
    rw [jsonFault?, h]
    rfl
  | sign _ => fun h => by simp [isTame] at h
  | list items => fun h => by
    rw [isTame, Bool.and_eq_true] at h
    rw [jsonFault?, jsonItemsFault?_eq_none items h.1]
  | object fields => fun h => by
    rw [isTame, Bool.and_eq_true] at h
    rw [jsonFault?, jsonFieldsFault?_eq_none fields h.1]

theorem jsonItemsFault?_eq_none :
    (items : List Value) → itemsTame items = true → jsonItemsFault? items = none
  | [] => fun _ => rfl
  | v :: vs => fun h => by
    rw [itemsTame, Bool.and_eq_true] at h
    rw [jsonItemsFault?, jsonFault?_eq_none v h.1, jsonItemsFault?_eq_none vs h.2, Option.none_or]

theorem jsonFieldsFault?_eq_none :
    (fields : Fields) → fieldsTame fields = true → jsonFieldsFault? fields = none
  | [] => fun _ => rfl
  | (k, v) :: fields => fun h => by
    rw [fieldsTame, Bool.and_eq_true, Bool.and_eq_true] at h
    rw [jsonFieldsFault?, jsonFault?_eq_none v h.1.2, jsonFieldsFault?_eq_none fields h.2,
      Option.none_or]

end

mutual

theorem textFault?_eq_none : (v : Value) → isTame v = true → textFault? v = none
  | null | bool _ | float _ | str _ => fun _ => by simp [textFault?]
  | int n => fun h => by
    rw [isTame, Bool.not_eq_true'] at h
    rw [textFault?, h]
    rfl
  | sign _ => fun h => by simp [isTame] at h
  | list items => fun h => by
    rw [isTame, Bool.and_eq_true] at h
    rw [textFault?, itemsFault?_eq_none items h.1]
  | object fields => fun h => by
    rw [isTame, Bool.and_eq_true] at h
    rw [textFault?, jsonFieldsFault?_eq_none fields h.1]

theorem itemsFault?_eq_none :
    (items : List Value) → itemsTame items = true → itemsFault? items = none
  | [] => fun _ => rfl
  | v :: vs => fun h => by
    rw [itemsTame, Bool.and_eq_true] at h
    rw [itemsFault?, textFault?_eq_none v h.1, itemsFault?_eq_none vs h.2, Option.none_or]

end

/-- The braces of a mapping shield what is inside. -/
theorem isClean_object (fields : Fields) : isClean (toText (object fields)) = true := by
  rw [isClean_iff, toText, json, List.reverse_append]
  exact ⟨startsSeparated_cons_of_not_isBlank (by decide),
    startsSeparated_cons_of_not_isBlank (by decide)⟩

mutual

theorem isClean_toText : (v : Value) → isTame v = true → isClean (toText v) = true
  | null => fun _ => by decide
  | bool b => fun _ => by cases b <;> decide
  | int n => fun _ => (Text.unseparated_ofInt n).isClean
  | float x => fun _ => by
    rw [toText, floatText]
    split
    · exact (Text.unseparated_ofInt _).isClean
    · exact (Binary64.unseparated_toText x).isClean
  | str s => fun h => by
    rw [isTame, Bool.and_eq_true] at h
    exact h.1
  | sign _ => fun h => by simp [isTame] at h
  | list items => fun h => by
    rw [isTame, Bool.and_eq_true] at h
    exact isClean_itemsText items h.1
  | object fields => fun _ => isClean_object fields

theorem isClean_itemsText :
    (items : List Value) → itemsTame items = true → isClean (itemsText items) = true
  | [] => fun _ => by decide
  | [v] => fun h => by
    rw [itemsTame, Bool.and_eq_true] at h
    exact isClean_toText v h.1
  | v :: w :: vs => fun h => by
    rw [itemsTame, Bool.and_eq_true] at h
    exact isClean_append (isClean_append (isClean_toText v h.1) (by decide))
      (isClean_itemsText (w :: vs) h.2)

end

/-! ## Writing and comparing -/

variable {v : Value}

theorem written_returns {v? : Option Value} (h : ∀ v ∈ v?, isTame v = true) :
    Returns (written v?) fun body => isClean body = true := by
  unfold written textOf
  cases v? with
  | none => exact .pure (by decide)
  | some v =>
    have hv := h v rfl
    rw [Option.bind_some, textFault?_eq_none v hv]
    exact .pure (isClean_toText v hv)

/-! ## Paths -/

theorem isTame_of_get? {key : Text} {fields : Fields} (h : fieldsTame fields = true)
    (hv : fields.get? key = some v) : isTame v = true := by
  induction fields with
  | nil => cases hv
  | cons f fields ih =>
    obtain ⟨hf, hfields⟩ := List.forall_mem_cons.1 (fieldsTame_iff.1 h)
    rw [Fields.get?] at hv
    split at hv
    · cases hv
      exact hf.2
    · exact ih (fieldsTame_iff.2 hfields) hv

theorem isTame_int {n : Int} (h : (!isTooLong n) = true) : isTame (int n) = true := by
  unfold isTame
  exact h

theorem isTame_size {part : Text} {n : Nat} (hn : (!isTooLong n) = true) :
    ∀ w ∈ (if part == lengthName then some (int n) else none), isTame w = true := by
  intro w hw
  rw [Option.mem_def, Option.ite_none_right_eq_some] at hw
  obtain ⟨-, hw⟩ := hw
  cases hw
  exact isTame_int hn

theorem child_returns {part : Text} (hv : isTame v = true) (hpart : part.Tame) :
    Returns (v.child part) fun w? => ∀ w ∈ w?, isTame w = true := by
  unfold child
  split
  · next fields =>
    rw [isTame, Bool.and_eq_true] at hv
    split
    · next w hw =>
      refine .pure fun w' hw' => ?_
      cases hw'
      exact isTame_of_get? hv.1 hw
    · exact .pure (isTame_size hv.2)
  · next items =>
    rw [isTame, Bool.and_eq_true] at hv
    split
    · next hlength =>
      refine .pure fun w hw => ?_
      cases hw
      exact isTame_int hv.2
    · refine (index_returns hpart).bind fun index _ => .pure fun w hw => ?_
      obtain ⟨i, -, hi⟩ := Option.bind_eq_some_iff.1 hw
      exact itemsTame_iff.1 hv.1 w (List.mem_of_getElem? hi)
  · next s =>
    rw [isTame, Bool.and_eq_true] at hv
    exact .pure (isTame_size hv.2)
  · exact .pure fun w hw => by cases hw

theorem follow_returns {parts : List Text} (hv : isTame v = true)
    (hparts : ∀ part ∈ parts, part.Tame) :
    Returns (v.follow parts) fun w? => ∀ w ∈ w?, isTame w = true := by
  induction parts generalizing v with
  | nil =>
    refine .pure fun w hw => ?_
    cases hw
    exact hv
  | cons part parts ih =>
    obtain ⟨hpart, hparts⟩ := List.forall_mem_cons.1 hparts
    unfold follow
    split
    · exact .pure fun w hw => by cases hw
    · refine (child_returns hv hpart).bind fun w? hw => ?_
      split
      · exact .pure fun w hw => by cases hw
      · next w => exact ih (hw w rfl) hparts

end Value

end Stencil
