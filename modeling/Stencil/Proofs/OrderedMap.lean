import Mathlib.Data.List.Basic

/-!
# Ordered maps

A map with an order is the list of its entries. A key that is set keeps its place if it is there and
goes last if it is new; a key that is removed takes its entry with it.
-/

namespace Stencil.OrderedMap

variable {κ α : Type} [DecidableEq κ] {m : List (κ × α)} {key : κ} {v w : α} {p : κ → Bool}

def set (key : κ) (v : α) (m : List (κ × α)) : List (κ × α) :=
  if key ∈ m.map Prod.fst then m.map fun e => if e.1 = key then (key, v) else e
  else m ++ [(key, v)]

def remove (key : κ) (m : List (κ × α)) : List (κ × α) := m.filter (·.1 ≠ key)

theorem mem_set_self : (key, w) ∈ set key v m ↔ w = v := by
  unfold set
  split
  · next hkey =>
    obtain ⟨e, he, rfl⟩ := List.mem_map.1 hkey
    rw [List.mem_map]
    constructor
    · rintro ⟨e', -, he'⟩
      split at he'
      · exact (Prod.mk.inj he').2.symm
      · next hne => exact absurd (congrArg Prod.fst he') hne
    · rintro rfl
      exact ⟨e, he, if_pos rfl⟩
  · next hkey =>
    have hnot : (key, w) ∉ m := fun hmem => hkey (List.mem_map_of_mem hmem)
    simp [hnot]

theorem filter_set (h : p key = false) :
    (set key v m).filter (fun e => p e.1) = m.filter fun e => p e.1 := by
  unfold set
  split
  · next hkey =>
    clear hkey
    induction m with
    | nil => rfl
    | cons e m ih =>
      by_cases he : e.1 = key
      · simp [he, h, ih]
      · simp [he, List.filter_cons, ih]
  · simp [h]

theorem keys_set_of_mem (h : key ∈ m.map Prod.fst) :
    (set key v m).map Prod.fst = m.map Prod.fst := by
  rw [set, if_pos h, List.map_map]
  refine List.map_congr_left fun e _ => ?_
  by_cases he : e.1 = key <;> simp [he]

theorem keys_set_of_notMem (h : key ∉ m.map Prod.fst) :
    (set key v m).map Prod.fst = m.map Prod.fst ++ [key] := by
  rw [set, if_neg h, List.map_append, List.map_singleton]

theorem notMem_remove : key ∉ (remove key m).map Prod.fst := by
  simp [remove]

theorem filter_remove (h : p key = false) :
    (remove key m).filter (fun e => p e.1) = m.filter fun e => p e.1 := by
  rw [remove, List.filter_filter]
  refine List.filter_congr fun e _ => ?_
  by_cases he : e.1 = key <;> simp [he, h]

theorem remove_of_notMem (h : key ∉ m.map Prod.fst) : remove key m = m := by
  rw [remove, List.filter_eq_self]
  intro e he
  have hne : e.1 ≠ key := fun heq => h (heq ▸ List.mem_map_of_mem he)
  simpa using hne

end Stencil.OrderedMap
