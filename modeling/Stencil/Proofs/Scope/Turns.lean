import Stencil.Condition.Truth
import Stencil.Proofs.Numeral
import Stencil.Proofs.Scope.Layers
import Stencil.Proofs.Text.Splitting
import Stencil.Proofs.Text.Trimming

/-!
# Turns of loops

What a turn of a loop calls its item has an explicit path in the scope around: the path of the
loop, with one more segment for the index or the key. Both lead to the same, whatever follows.
-/

namespace Stencil

/-! ## Segments -/

namespace Text

/-- A text that can be one segment of a path, at its ends too. -/
structure IsSegment (s : Text) : Prop where
  tight : Tight s
  undotted : chr '.' ∉ s

instance (s : Text) : Decidable (IsSegment s) :=
  decidable_of_iff (Tight s ∧ chr '.' ∉ s) ⟨fun h => ⟨h.1, h.2⟩, fun h => ⟨h.tight, h.undotted⟩⟩

variable {s k : Text}

theorem isSegment_ofNat (n : Nat) : IsSegment (ofNat n) := by
  refine ⟨.of_forall (ofNat_ne_nil n) fun c hc => ?_, fun hdot => ?_⟩
  · exact isBlank_of_isDigit (isDigit_ofNat n c hc)
  · exact absurd (isDigit_ofNat n '.' hdot) (by decide)

/-- What follows a path with two ends adds the same segments to each. -/
theorem exists_splitOn_append (hs : s.head?.all (· == chr '.')) :
    ∃ parts, ∀ a : Text, Tight a → splitOn '.' (trim (a ++ s)) = splitOn '.' a ++ parts := by
  cases s with
  | nil =>
    refine ⟨[], fun a ha => ?_⟩
    rw [List.append_nil, List.append_nil, ha.trim_eq]
  | cons c rest =>
    obtain rfl : c = '.' := by simpa using hs
    -- A dot is not blank, so only blanks at the back are taken off.
    obtain ⟨w, hw, hrest⟩ := exists_trimEnd ('.' :: rest)
    have hne : trim ('.' :: rest) ≠ [] := by
      rw [Ne, trim_eq_nil_iff]
      intro hblanks
      have hdot := hblanks '.' List.mem_cons_self
      revert hdot
      decide
    have htight := tight_trim hne
    have hstart : trimStart ('.' :: rest) = chr '.' :: rest :=
      trimStart_eq (by decide : (!isBlank '.') = true)
    rw [trim, hstart] at hne htight
    obtain ⟨c, back, hback⟩ := List.exists_cons_of_ne_nil hne
    rw [hback] at hrest htight
    obtain ⟨rfl, -⟩ := List.cons.inj hrest
    refine ⟨splitOn '.' back, fun a ha => ?_⟩
    have hends : Tight (a ++ chr '.' :: back) := ha.append [] htight
    rw [hrest, ← List.append_assoc, trim_append_right hw, hends.trim_eq, splitOn_append_cons]

theorem IsSegment.splitOn_append_cons (hk : IsSegment k) (s : Text) :
    splitOn '.' (s ++ chr '.' :: k) = splitOn '.' s ++ [k] := by
  rw [Text.splitOn_append_cons, splitOn_eq_singleton hk.undotted]

end Text

open Text

/-! ## Steps -/

namespace Value

variable {v w : Value} {k : Text} {front back : List Text}

theorem follow_cons (hk : k ≠ []) (h : v.child k = .ok (some w)) :
    v.follow (k :: back) = w.follow back := by
  have hempty : ¬k.isEmpty = true := by rwa [List.isEmpty_iff]
  rw [follow, if_neg hempty, h]
  rfl

theorem follow_append (h : v.follow front = .ok (some w)) :
    v.follow (front ++ back) = w.follow back := by
  induction front generalizing v with
  | nil =>
    cases h
    rfl
  | cons k front ih =>
    rw [follow] at h
    split at h
    · cases h
    · next hk =>
      obtain ⟨u?, hu, h⟩ := Outcome.bind_eq_ok_iff.1 h
      rw [List.isEmpty_iff] at hk
      cases u? with
      | none => cases h
      | some u => rw [List.cons_append, follow_cons hk hu, ih h]

theorem written_ofNat {i : Nat} {t : Text} (h : written (some (.int i)) = .ok t) :
    isTooLong i = false ∧ t = ofNat i := by
  rw [written, Option.bind_some, textFault?] at h
  split at h
  · cases h
  · next hnone =>
    rw [ite_eq_right_iff] at hnone
    refine ⟨Bool.eq_false_iff.2 fun hlong => ?_, (Except.ok.inj h).symm⟩
    cases hnone hlong

theorem child_ofNat {items : List Value} {i : Nat} (hi : isTooLong i = false)
    (h : items[i]? = some v) :
    (list items).child (ofNat i) = .ok (some v) := by
  have hne : ofNat i ≠ lengthName := by
    intro heq
    have hl : chr 'l' ∈ ofNat i := by
      rw [heq]
      decide
    exact absurd (isDigit_ofNat i 'l' hl) (by decide)
  simp [child, hne, index_ofNat hi, h, bind, Except.bind, pure, Except.pure]

theorem child_key {fields : Fields} (h : Fields.get? k fields = some v) :
    (object fields).child k = .ok (some v) := by
  rw [child, h]

end Value

namespace Entry

variable {items : List Value} {fields : Fields} {i : Nat} {e : Entry}

theorem getElem?_ofValue_list :
    (ofValue (.list items))[i]? = items[i]?.map fun item => ⟨i, item, none⟩ := by
  simp [ofValue, List.getElem?_zipIdx, Function.comp_def]

theorem getElem?_ofValue_object :
    (ofValue (.object fields))[i]? =
      fields[i]?.map fun field => ⟨i, field.2, some field.1⟩ := by
  simp [ofValue, List.getElem?_zipIdx, Function.comp_def]

end Entry

namespace Scope

open Entry

variable {c turn : Scope} {e : Entry} {p path name k : Text} {v w : Value} {parts : List Text}

/-! ## Paths -/

theorem exists_member?_of_lookup (h : c.lookup p = .ok (some v)) :
    ∃ first rest w, splitOn '.' (trim p) = first :: rest ∧ first ≠ [] ∧
      c.member? first = some w ∧ w.follow rest = .ok (some v) := by
  rw [lookup] at h
  split at h
  · cases h
  · next first rest hsplit =>
    split at h
    · cases h
    · next hfirst =>
      split at h
      · cases h
      · next w hw =>
        rw [List.isEmpty_iff] at hfirst
        exact ⟨first, rest, w, hsplit, hfirst, hw, h⟩

theorem tight_of_lookup (h : c.lookup p = .ok (some v)) : Tight (trim p) := by
  obtain ⟨first, rest, w, hsplit, hfirst, -, -⟩ := exists_member?_of_lookup h
  refine tight_trim fun hnil => ?_
  rw [hnil] at hsplit
  cases hsplit
  exact hfirst rfl

theorem lookup_of_splitOn_append (h : c.lookup p = .ok (some v))
    (hpath : splitOn '.' (trim path) = splitOn '.' (trim p) ++ parts) :
    c.lookup path = v.follow parts := by
  obtain ⟨first, rest, w, hsplit, hfirst, hw, hrest⟩ := exists_member?_of_lookup h
  rw [hsplit, List.cons_append] at hpath
  rw [lookup_of_member? hpath hfirst hw, Value.follow_append hrest]

theorem lookup_name (hname : IsSegment name) (h : turn.get? name = some v) :
    turn.lookup name = .ok (some v) := by
  have hsplit : splitOn '.' (trim name) = [name] := by
    rw [hname.tight.trim_eq, splitOn_eq_singleton hname.undotted]
  rw [lookup_of_member? hsplit hname.tight.ne_nil (by rw [member?, h])]
  rfl

/-! ## Names of a turn -/

theorem get?_itemName : (loop c e).get? itemName = some e.item := by
  rw [get?_loop_of_isReserved (by decide), bindings]
  split <;> rfl

theorem get?_indexName : (loop c e).get? indexName = some (.int e.index) := by
  rw [get?_loop_of_isReserved (by decide), bindings]
  split <;> rfl

theorem get?_keyName (h : e.key? = some k) : (loop c e).get? keyName = some (.str k) := by
  rw [get?_loop_of_isReserved (by decide), bindings, h]
  rfl

theorem get?_valueName (h : e.key? = some k) : (loop c e).get? valueName = some e.item := by
  rw [get?_loop_of_isReserved (by decide), bindings, h]
  rfl

/-! ## Items and their paths -/

/-- In one scope a name leads to what a path leads to in another one, to a value or to nothing or
to an error, whatever further segments follow both. -/
def StandsFor (inner : Scope) (name : Text) (outer : Scope) (path : Text) : Prop :=
  ∀ s : Text, s.head?.all (· == chr '.') → inner.lookup (name ++ s) = outer.lookup (path ++ s)

theorem standsFor_child (hp : c.lookup p = .ok (some v)) (hk : IsSegment k)
    (hchild : v.child k = .ok (some w)) (hname : IsSegment name) (hget : turn.get? name = some w) :
    turn.StandsFor name c (trim p ++ chr '.' :: k) := by
  intro s hs
  obtain ⟨parts, hparts⟩ := exists_splitOn_append hs
  have hpath : Tight (trim p ++ chr '.' :: k) := (tight_of_lookup hp).append ['.'] hk.tight
  have hinner := hparts name hname.tight
  have houter := hparts _ hpath
  rw [splitOn_eq_singleton hname.undotted, List.singleton_append] at hinner
  rw [hk.splitOn_append_cons, List.append_assoc (splitOn '.' (trim p)), List.singleton_append]
    at houter
  calc turn.lookup (name ++ s)
      = w.follow parts :=
        lookup_of_member? hinner hname.tight.ne_nil (by rw [member?, hget])
    _ = v.follow (k :: parts) := (Value.follow_cons hk.tight.ne_nil hchild).symm
    _ = c.lookup (trim p ++ chr '.' :: k ++ s) := (lookup_of_splitOn_append hp houter).symm

theorem entries_of_lookup (h : c.lookup p = .ok (some v)) : c.entries p = .ok (ofValue v) := by
  rw [entries, h]
  rfl

/-- A loop over a list has a turn for each item, where the item stands for the path of the loop
with the index behind it, as far as indexes can be written. A loop over a mapping has a turn for
each key, where item and value stand for the path with the key behind it, if the key is a segment
at all. -/
theorem turns_standFor (c : Scope) (p : Text) :
    (∀ items, c.lookup p = .ok (some (.list items)) →
      ∃ turns, c.entries p = .ok turns ∧ turns.length = items.length ∧
        ∀ (i : Nat) e, turns[i]? = some e →
          (loop c e).lookup indexName = .ok (some (.int i)) ∧
          ∀ t, Value.written (some (.int i)) = .ok t →
            (loop c e).StandsFor itemName c (trim p ++ chr '.' :: t)) ∧
    (∀ fields, c.lookup p = .ok (some (.object fields)) → (Fields.keys fields).Nodup →
      ∃ turns, c.entries p = .ok turns ∧ turns.length = fields.length ∧
        ∀ (i : Nat) e k, turns[i]? = some e → (Fields.keys fields)[i]? = some k →
          (loop c e).lookup indexName = .ok (some (.int i)) ∧
          (loop c e).lookup keyName = .ok (some (.str k)) ∧
          (k.IsSegment →
            (loop c e).StandsFor itemName c (trim p ++ chr '.' :: k) ∧
            (loop c e).StandsFor valueName c (trim p ++ chr '.' :: k))) := by
  constructor
  · intro items hp
    refine ⟨_, entries_of_lookup hp, by simp [ofValue], fun i e hturn => ?_⟩
    rw [getElem?_ofValue_list, Option.map_eq_some_iff] at hturn
    obtain ⟨item, hitem, rfl⟩ := hturn
    refine ⟨lookup_name (by decide) get?_indexName, fun t ht => ?_⟩
    obtain ⟨hi, rfl⟩ := Value.written_ofNat ht
    exact standsFor_child hp (isSegment_ofNat i) (Value.child_ofNat hi hitem) (by decide)
      get?_itemName
  · intro fields hp hkeys
    refine ⟨_, entries_of_lookup hp, by simp [ofValue], fun i e k hturn hk => ?_⟩
    rw [getElem?_ofValue_object, Option.map_eq_some_iff] at hturn
    obtain ⟨⟨key, item⟩, hfield, rfl⟩ := hturn
    obtain rfl : key = k := by simpa [Fields.keys, hfield] using hk
    have hchild : (Value.object fields).child key = .ok (some item) :=
      Value.child_key (Fields.get?_of_mem hkeys (List.mem_of_getElem? hfield))
    refine ⟨lookup_name (by decide) get?_indexName, lookup_name (by decide) (get?_keyName rfl),
      fun hsegment => ⟨?_, ?_⟩⟩
    · exact standsFor_child hp hsegment hchild (by decide) get?_itemName
    · exact standsFor_child hp hsegment hchild (by decide) (get?_valueName rfl)

theorem turns_standFor_length :
    let fields : Fields := [(text "length", .int 7)]
    let c := base [(text "xs", .list [.object fields])]
    c.lookup (text " xs") = .ok (some (.list [.object fields])) ∧
      (loop c ⟨0, .object fields, none⟩).StandsFor itemName c (text "xs.0") ∧
      c.lookup (text "xs.0") = .ok (some (.object fields)) ∧ (Fields.keys fields).Nodup ∧
      (loop c ⟨0, .int 7, some (text "length")⟩).StandsFor valueName c (text "xs.0.length") := by
  intro fields c
  have hlist : c.lookup (text " xs") = .ok (some (.list [.object fields])) := by rfl
  have hmapping : c.lookup (text "xs.0") = .ok (some (.object fields)) := by rfl
  have hkeys : (Fields.keys fields).Nodup := by decide
  obtain ⟨turns, hturns, -, hitems⟩ := (turns_standFor c (text " xs")).1 _ hlist
  obtain ⟨inner, hinner, -, hfields⟩ := (turns_standFor c (text "xs.0")).2 _ hmapping hkeys
  obtain rfl : [⟨0, .object fields, none⟩] = turns := Except.ok.inj hturns
  obtain rfl : [⟨0, .int 7, some (text "length")⟩] = inner := Except.ok.inj hinner
  obtain ⟨-, hitem⟩ := hitems 0 _ rfl
  obtain ⟨-, -, hkey⟩ := hfields 0 _ (text "length") rfl rfl
  have hwritten : Value.written (some (.int 0)) = .ok ['0'] := by decide +kernel
  exact ⟨hlist, hitem _ hwritten, hmapping, hkeys, (hkey (by decide)).2⟩

end Scope

end Stencil
