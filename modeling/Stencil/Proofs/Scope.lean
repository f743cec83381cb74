import Stencil.Proofs.Scope.Layers
import Stencil.Proofs.Text.Parts
import Stencil.Proofs.Value.Tame

/-!
# Scopes of tame values

Whatever a path leads to from a tame scope is tame. A loop binds at most four names, so the size of
a scope stays near that of the base context.
-/

namespace Stencil

open Outcome

theorem isTooLong_mono {m n : Nat} (h : m ≤ n) (hn : (!isTooLong n) = true) :
    (!isTooLong m) = true := by
  simp only [isTooLong, Bool.not_eq_true', decide_eq_false_iff_not, Int.natAbs_natCast] at hn ⊢
  omega

namespace Entry

variable {e : Entry}

/-- Whether the item, the key and the index of a turn are tame. -/
def isTame (e : Entry) : Bool :=
  e.item.isTame && (e.key?.all fun key => (Value.str key).isTame) && !isTooLong e.index

theorem isTame_names : ∀ name ∈ [itemName, indexName, keyName, valueName],
    (Value.str name).isTame = true := by decide +kernel

theorem fieldsTame_bindings (h : e.isTame = true) : Value.fieldsTame e.bindings = true := by
  rw [isTame, Bool.and_eq_true, Bool.and_eq_true] at h
  obtain ⟨⟨hitem, hkey⟩, hindex⟩ := h
  have hindex : (Value.int e.index).isTame = true := Value.isTame_int hindex
  have hnames := isTame_names
  simp only [List.forall_mem_cons] at hnames
  obtain ⟨hitemName, hindexName, hkeyName, hvalueName, -⟩ := hnames
  rw [Value.fieldsTame_iff]
  unfold bindings
  split
  · simp only [List.forall_mem_cons]
    exact ⟨⟨hitemName, hitem⟩, ⟨hindexName, hindex⟩, List.forall_mem_nil _⟩
  · next key he =>
    rw [he, Option.all_some] at hkey
    simp only [List.forall_mem_cons]
    exact ⟨⟨hkeyName, hkey⟩, ⟨hvalueName, hitem⟩, ⟨hitemName, hitem⟩, ⟨hindexName, hindex⟩,
      List.forall_mem_nil _⟩

theorem isTame_mk {item : Value} {key? : Option Text} {i n : Nat} (hitem : item.isTame = true)
    (hkey : ∀ key ∈ key?, (Value.str key).isTame = true) (hi : i < n)
    (hn : (!isTooLong n) = true) : isTame ⟨i, item, key?⟩ = true := by
  rw [isTame, Bool.and_eq_true, Bool.and_eq_true, Option.all_eq_true]
  exact ⟨⟨hitem, hkey⟩, isTooLong_mono hi.le hn⟩

theorem isTame_of_mem_ofValue {v : Value} (hv : v.isTame = true) (he : e ∈ ofValue v) :
    e.isTame = true := by
  unfold ofValue at he
  split at he
  · next items =>
    rw [Value.isTame, Bool.and_eq_true] at hv
    obtain ⟨⟨item, i⟩, hmem, rfl⟩ := List.mem_map.1 he
    obtain ⟨hi, hget⟩ := List.mem_zipIdx' hmem
    have hitem := Value.itemsTame_iff.1 hv.1 _ (List.getElem_mem hi)
    rw [← hget] at hitem
    exact isTame_mk hitem (fun _ hkey => by cases hkey) hi hv.2
  · next fields =>
    rw [Value.isTame, Bool.and_eq_true] at hv
    obtain ⟨⟨⟨key, item⟩, i⟩, hmem, rfl⟩ := List.mem_map.1 he
    obtain ⟨hi, hget⟩ := List.mem_zipIdx' hmem
    have hfield := Value.fieldsTame_iff.1 hv.1 _ (List.getElem_mem hi)
    rw [← hget] at hfield
    exact isTame_mk hfield.2 (fun _ hkey => by cases hkey; exact hfield.1) hi hv.2
  · cases he

end Entry

namespace Scope

variable {s : Scope} {name path : Text} {v : Value}

/-- Whether all values of a scope are tame, and its size too. -/
def isTame : Scope → Bool
  | base fields => Value.fieldsTame fields && !isTooLong (fields.length + 4 : Nat)
  | loop outer entry => outer.isTame && entry.isTame

theorem isTame_of_get? (h : s.isTame = true) (hv : s.get? name = some v) : v.isTame = true := by
  induction s with
  | base fields =>
    rw [isTame, Bool.and_eq_true] at h
    exact Value.isTame_of_get? h.1 hv
  | loop outer entry ih =>
    rw [isTame, Bool.and_eq_true] at h
    rw [get?] at hv
    split at hv
    · exact Value.isTame_of_get? (Entry.fieldsTame_bindings h.2) hv
    · exact ih h.1 hv

theorem size_le (s : Scope) : s.size ≤ s.fields.length + 4 := by
  cases s with
  | base fields => simp [size, names, Scope.fields]
  | loop outer entry =>
    have hbase := List.length_filter_le (!Entry.isReserved ·) (Fields.keys outer.fields)
    have hbindings : entry.bindings.length ≤ 4 := by
      unfold Entry.bindings
      split <;> simp
    rw [Fields.keys, List.length_map] at hbase
    rw [size, names_loop, List.length_append, Fields.keys, List.length_map, Scope.fields]
    exact (Nat.add_le_add hbindings hbase).trans_eq (Nat.add_comm 4 _)

theorem isTooLong_size (h : s.isTame = true) : (!isTooLong s.size) = true := by
  refine isTooLong_mono (size_le s) ?_
  induction s with
  | base fields =>
    rw [isTame, Bool.and_eq_true] at h
    exact h.2
  | loop outer entry ih =>
    rw [isTame, Bool.and_eq_true] at h
    exact ih h.1

theorem isTame_of_member? (h : s.isTame = true) (hv : s.member? name = some v) :
    v.isTame = true := by
  unfold member? at hv
  split at hv
  · next w hw =>
    cases hv
    exact isTame_of_get? h hw
  · exact Value.isTame_size (isTooLong_size h) v hv

theorem lookup_returns (h : s.isTame = true) (hpath : path.Tame) :
    Returns (s.lookup path) fun v? => ∀ v ∈ v?, v.isTame = true := by
  unfold lookup
  split
  · exact .pure fun v hv => by cases hv
  · next first rest hsplit =>
    split
    · exact .pure fun v hv => by cases hv
    · split
      · exact .pure fun v hv => by cases hv
      · next v hv =>
        refine Value.follow_returns (isTame_of_member? h hv) fun part hpart => ?_
        have hmem : part ∈ Text.splitOn '.' (Text.trim path) := by
          rw [hsplit]
          exact List.mem_cons_of_mem first hpart
        have hpart := (Text.isInfix_of_mem_splitOn hmem).trans (Text.isInfix_trim path)
        exact hpath.part hpart

end Scope

end Stencil
