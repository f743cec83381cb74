import Stencil.Proofs.Condition.Comparing
import Stencil.Proofs.Scope.Turns
import Stencil.Proofs.Value.Fields

/-!
# Membership and loops

A list has an item exactly if a loop over it has a turn whose item equals it, and a mapping has a
key exactly if a loop over it has a turn of that key.
-/

namespace Stencil

open Outcome Entry Scope

variable {c : Scope} {p k : Text} {v : Option Value} {items : List Value} {fields : Fields}
  {e : Entry} {turns : List Entry} {turn : Entry → Except ConversionError Bool} {l : Literal}
  {b : Bool}

/-! ## Turns -/

namespace Entry

theorem map_item_ofValue_list : (ofValue (.list items)).map item = items := by
  rw [ofValue, List.map_map]
  exact List.zipIdx_map_fst 0 items

theorem map_key?_ofValue_object :
    (ofValue (.object fields)).map key? = (Fields.keys fields).map some := by
  rw [ofValue, List.map_map, Fields.keys, List.map_map]
  conv_rhs => rw [← List.zipIdx_map_fst 0 fields, List.map_map]
  rfl

theorem exists_key?_of_mem (he : e ∈ ofValue (.object fields)) :
    ∃ k ∈ Fields.keys fields, e.key? = some k := by
  have hkey := List.mem_map_of_mem (f := key?) he
  rw [map_key?_ofValue_object, List.mem_map] at hkey
  obtain ⟨k, hk, heq⟩ := hkey
  exact ⟨k, hk, heq.symm⟩

theorem exists_turn_of_mem_keys (hk : k ∈ Fields.keys fields) :
    ∃ e ∈ ofValue (.object fields), e.key? = some k := by
  have hkey := List.mem_map_of_mem (f := some) hk
  rwa [← map_key?_ofValue_object, List.mem_map] at hkey

end Entry

theorem Literal.isAmong_eq_anyM (l : Literal) (items : List Value) :
    l.isAmong items = items.anyM fun item => l.equals (some item) := by
  induction items with
  | nil => rfl
  | cons item items ih => rw [isAmong, List.anyM_cons, ih]

namespace Term

theorem holds_item (c : Scope) (e : Entry) (l : Literal) :
    (compare itemName .equal l).holds (loop c e) = l.equals (some e.item) := by
  rw [holds_compare, lookup_name (by decide) get?_itemName]
  rfl

theorem holds_key (c : Scope) (he : e.key? = some k) (name : Text) :
    (compare keyName .equal ⟨name, true⟩).holds (loop c e) = .ok (k == name) := by
  rw [holds_compare, lookup_name (by decide) (get?_keyName he)]
  rfl

theorem mem_keys_iff_turn (c : Scope) :
    k ∈ Fields.keys fields ↔
      ∃ e ∈ ofValue (.object fields),
        (compare keyName .equal ⟨k, true⟩).holds (loop c e) = .ok true := by
  constructor
  · intro hk
    obtain ⟨e, he, hkey⟩ := exists_turn_of_mem_keys hk
    exact ⟨e, he, by rw [holds_key c hkey, beq_self_eq_true]⟩
  · rintro ⟨e, he, hholds⟩
    obtain ⟨name, hname, hkey⟩ := exists_key?_of_mem he
    rw [holds_key c hkey] at hholds
    rwa [← eq_of_beq (Except.ok.inj hholds)]

/-! ## Searches -/

/-- Membership returns, and holds exactly if what is asked of the turns holds in one of them; the
negated membership holds exactly if it holds in none. -/
structure IsDecidedBy (c : Scope) (p : Text) (l : Literal) (turns : List Entry)
    (turn : Entry → Except ConversionError Bool) : Prop where
  returns : ∀ negated, ∃ b, (member p l negated).holds c = .ok b
  member_iff : (member p l false).holds c = .ok true ↔ ∃ e ∈ turns, turn e = .ok true
  negated_iff : (member p l true).holds c = .ok true ↔ ∀ e ∈ turns, turn e ≠ .ok true

theorem holds_member (h : c.lookup p = .ok v) (l : Literal) (negated : Bool) :
    (member p l negated).holds c = l.isMember v >>= fun b => .ok (b != negated) := by
  rw [holds, h]
  rfl

theorem isDecidedBy_of_isMember (h : c.lookup p = .ok v) (hb : l.isMember v = .ok b)
    (hturns : b = true ↔ ∃ e ∈ turns, turn e = .ok true) : IsDecidedBy c p l turns turn := by
  have hmember : ∀ negated, (member p l negated).holds c = .ok (b != negated) := by
    intro negated
    rw [holds_member h, hb]
    rfl
  have hnone : b = false ↔ ∀ e ∈ turns, turn e ≠ .ok true := by
    rw [← Bool.not_eq_true, hturns]
    simp only [not_exists, not_and, ne_eq]
  refine ⟨fun negated => ⟨_, hmember negated⟩, ?_, ?_⟩
  · rw [hmember, ← hturns, Except.ok.injEq, Bool.bne_false]
  · rw [hmember, ← hnone, Except.ok.injEq, Bool.bne_true, Bool.not_eq_true']

theorem isMember_list (c : Scope) (l : Literal) (items : List Value) :
    l.isMember (some (.list items)) =
      (ofValue (.list items)).anyM fun e => (compare itemName .equal l).holds (loop c e) := by
  have hitems := Outcome.anyM_map (f := fun v => l.equals (some v)) item (ofValue (.list items))
  rw [map_item_ofValue_list] at hitems
  simp only [holds_item]
  exact (l.isAmong_eq_anyM items).trans hitems

theorem isDecidedBy_list (h : c.lookup p = .ok (some (.list items)))
    (hturns : ∀ e ∈ ofValue (.list items), ∃ b,
      (compare itemName .equal l).holds (loop c e) = .ok b) :
    IsDecidedBy c p l (ofValue (.list items)) fun e =>
      (compare itemName .equal l).holds (loop c e) := by
  obtain ⟨b, hb, hiff⟩ := exists_anyM hturns
  rw [← isMember_list] at hb
  exact isDecidedBy_of_isMember h hb hiff

theorem isDecidedBy_object (h : c.lookup p = .ok (some (.object fields))) (k : Text)
    (quoted : Bool) :
    IsDecidedBy c p ⟨k, quoted⟩ (ofValue (.object fields)) fun e =>
      (compare keyName .equal ⟨k, true⟩).holds (loop c e) :=
  isDecidedBy_of_isMember h rfl (Fields.contains_iff.trans (mem_keys_iff_turn c))

/-- Membership in a list is decided as a loop over the list decides equality of the item, error for
error; and membership in a mapping as a loop over it decides equality of the key. In nothing, null,
booleans and numbers there is nothing. -/
theorem member_iff_turn (c : Scope) (p : Text) :
    (∀ items, c.lookup p = .ok (some (.list items)) →
      ∃ turns, c.entries p = .ok turns ∧ ∀ l,
        let turn := fun e => (compare itemName .equal l).holds (loop c e)
        (member p l false).holds c = turns.anyM turn ∧
        ((∀ e ∈ turns, ∃ b, turn e = .ok b) → IsDecidedBy c p l turns turn)) ∧
    (∀ fields, c.lookup p = .ok (some (.object fields)) →
      ∃ turns, c.entries p = .ok turns ∧ ∀ k quoted,
        IsDecidedBy c p ⟨k, quoted⟩ turns fun e =>
          (compare keyName .equal ⟨k, true⟩).holds (loop c e)) ∧
    (∀ v, c.lookup p = .ok v →
      v = none ∨ v = some .null ∨ (∃ b, v = some (.bool b)) ∨ (∃ n, v = some (.int n)) ∨
        (∃ x, v = some (.float x)) →
      ∀ l, (member p l false).holds c = .ok false) := by
  refine ⟨fun items hp => ⟨_, entries_of_lookup hp, fun l => ⟨?_, isDecidedBy_list hp⟩⟩,
    fun fields hp => ⟨_, entries_of_lookup hp, isDecidedBy_object hp⟩, ?_⟩
  · rw [holds_member hp, isMember_list c]
    simp only [Bool.bne_false]
    exact bind_pure _
  · rintro v hp (rfl | rfl | ⟨b, rfl⟩ | ⟨n, rfl⟩ | ⟨x, rfl⟩) l <;> exact holds_member hp l false

theorem member_iff_turn_mixed :
    let items := [.null, .list [.int 5], .str (text "5.0"), .bool true]
    let fields := [(text "a.b", .null)]
    let c := base [(text "xs", .list items), (text "m", .object fields), (text "n", .null)]
    let five : Literal := ⟨text "5", false⟩
    let turns := ofValue (.list items)
    c.lookup (text "xs") = .ok (some (.list items)) ∧
    (∀ e ∈ turns, ∃ b, (compare itemName .equal five).holds (loop c e) = .ok b) ∧
    IsDecidedBy c (text "xs") five turns
      (fun e => (compare itemName .equal five).holds (loop c e)) ∧
    (member (text "xs") five false).holds c = .ok true ∧
    c.lookup (text "m") = .ok (some (.object fields)) ∧
    (member (text "m") ⟨text "a.b", false⟩ false).holds c = .ok true ∧
    (∃ e ∈ ofValue (.object fields),
      (compare keyName .equal ⟨text "a.b", true⟩).holds (loop c e) = .ok true) ∧
    c.lookup (text "n") = .ok (some .null) ∧
    (member (text "n") ⟨[], false⟩ false).holds c = .ok false := by
  intro items fields c five turns
  have hlist : c.lookup (text "xs") = .ok (some (.list items)) := by rfl
  have hobject : c.lookup (text "m") = .ok (some (.object fields)) := by rfl
  have hnull : c.lookup (text "n") = .ok (some .null) := by rfl
  have hreturns : ∀ e ∈ turns, ∃ b,
      (compare itemName .equal five).holds (loop c e) = .ok b := by
    decide +kernel
  have hfive : (member (text "xs") five false).holds c = .ok true := by decide +kernel
  have hkey : (member (text "m") ⟨text "a.b", false⟩ false).holds c = .ok true := by
    decide +kernel
  obtain ⟨found, hfound, hitems⟩ := (member_iff_turn c (text "xs")).1 items hlist
  obtain ⟨pairs, hpairs, hkeys⟩ := (member_iff_turn c (text "m")).2.1 fields hobject
  obtain rfl : turns = found := Except.ok.inj hfound
  obtain rfl : ofValue (.object fields) = pairs := Except.ok.inj hpairs
  exact ⟨hlist, hreturns, (hitems five).2 hreturns, hfive, hobject, hkey,
    (hkeys (text "a.b") false).member_iff.1 hkey, hnull,
    (member_iff_turn c (text "n")).2.2 _ hnull (.inr (.inl rfl)) ⟨[], false⟩⟩

end Term

end Stencil
