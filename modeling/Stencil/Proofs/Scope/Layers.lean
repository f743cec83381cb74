import Stencil.Proofs.Value.Fields
import Stencil.Scope

/-!
# Layers of a scope

However deep loops stand inside each other, two layers count: the innermost loop for the names that
only loops bind, and the base context for all others. Names, size and lookups agree on this.
-/

namespace Stencil

namespace Entry

variable {e : Entry} {name : Text}

theorem isReserved_of_mem_bindings (h : name ∈ Fields.keys e.bindings) :
    isReserved name = true := by
  unfold bindings at h
  split at h
  · simp only [Fields.keys, List.map_cons, List.map_nil, List.mem_cons, List.not_mem_nil,
      or_false] at h
    obtain rfl | rfl := h <;> decide
  · simp only [Fields.keys, List.map_cons, List.map_nil, List.mem_cons, List.not_mem_nil,
      or_false] at h
    obtain rfl | rfl | rfl | rfl := h <;> decide

theorem nodup_bindings (e : Entry) : (Fields.keys e.bindings).Nodup := by
  unfold bindings
  split <;> simp only [Fields.keys, List.map_cons, List.map_nil] <;> decide

theorem filter_bindings (e : Entry) :
    (Fields.keys e.bindings).filter (!isReserved ·) = [] := by
  rw [List.filter_eq_nil_iff]
  intro name hname
  simp [isReserved_of_mem_bindings hname]

end Entry

namespace Scope

variable {s t outer : Scope} {e : Entry} {name first path : Text} {rest : List Text}

def fields : Scope → Fields
  | base fields => fields
  | loop outer _ => outer.fields

/-! ## Names -/

theorem filter_names (s : Scope) :
    s.names.filter (!Entry.isReserved ·) =
      (Fields.keys s.fields).filter (!Entry.isReserved ·) := by
  induction s with
  | base fields => rfl
  | loop outer entry ih =>
    have hbindings := entry.filter_bindings
    rw [names, List.filter_append, ← Fields.keys, hbindings, List.nil_append, List.filter_filter]
    simpa [Scope.fields] using ih

theorem names_loop (outer : Scope) (e : Entry) :
    (loop outer e).names =
      Fields.keys e.bindings ++ (Fields.keys outer.fields).filter (!Entry.isReserved ·) := by
  rw [names, filter_names]
  rfl

theorem nodup_names (h : (Fields.keys outer.fields).Nodup) : (loop outer e).names.Nodup := by
  rw [names_loop]
  refine e.nodup_bindings.append (h.filter _) fun name hbound hbase => ?_
  simp [Entry.isReserved_of_mem_bindings hbound] at hbase

/-! ## Values -/

theorem get?_loop_of_isReserved (h : Entry.isReserved name = true) :
    (loop outer e).get? name = Fields.get? name e.bindings := by
  rw [get?, if_pos h]

theorem get?_of_not_isReserved (h : Entry.isReserved name = false) :
    s.get? name = Fields.get? name s.fields := by
  induction s with
  | base fields => rfl
  | loop outer entry ih => rw [get?, if_neg (by simp [h]), ih, Scope.fields]

theorem isSome_get?_iff : (s.get? name).isSome = true ↔ name ∈ s.names := by
  cases s with
  | base fields => exact Fields.contains_iff
  | loop outer entry =>
    rw [names_loop, List.mem_append, List.mem_filter]
    cases h : Entry.isReserved name with
    | true =>
      rw [get?_loop_of_isReserved h, ← Fields.contains, Fields.contains_iff]
      simp
    | false =>
      have hbound : name ∉ Fields.keys entry.bindings := by
        intro hmem
        rw [Entry.isReserved_of_mem_bindings hmem] at h
        cases h
      rw [get?_of_not_isReserved h, Scope.fields, ← Fields.contains, Fields.contains_iff]
      simp [hbound]

/-! ## Paths -/

theorem lookup_congr (hpath : Text.splitOn '.' (Text.trim path) = first :: rest)
    (h : s.member? first = t.member? first) : s.lookup path = t.lookup path := by
  simp only [lookup, hpath, h]

theorem lookup_of_member? {v : Value} (hpath : Text.splitOn '.' (Text.trim path) = first :: rest)
    (hne : first ≠ []) (h : s.member? first = some v) : s.lookup path = v.follow rest := by
  simp only [lookup, hpath, h, List.isEmpty_iff, if_neg hne]

theorem lookup_of_member?_eq_none (hpath : Text.splitOn '.' (Text.trim path) = first :: rest)
    (h : s.member? first = none) : s.lookup path = .ok none := by
  simp only [lookup, hpath, h, ite_self]

theorem member?_congr (hne : first ≠ lengthName) (h : s.get? first = t.get? first) :
    s.member? first = t.member? first := by
  simp [member?, h, hne]

theorem ne_lengthName_of_isReserved (h : Entry.isReserved first = true) : first ≠ lengthName := by
  rintro rfl
  revert h
  decide

/-- The names of a loop are its own bindings, then the names of the base context that no loop
binds. A path that starts with a reserved name asks the innermost loop alone, and any other path
the base context; only the size that a scope has, if the base context names none, is its own. -/
theorem lookup_layers (outer : Scope) (e : Entry) (hbase : (Fields.keys outer.fields).Nodup) :
    (loop outer e).names =
        Fields.keys e.bindings ++ (Fields.keys outer.fields).filter (!Entry.isReserved ·) ∧
      (loop outer e).names.Nodup ∧
      (loop outer e).size = (loop outer e).names.length ∧
      (∀ name, ((loop outer e).get? name).isSome = true ↔ name ∈ (loop outer e).names) ∧
      ∀ path first rest, Text.splitOn '.' (Text.trim path) = first :: rest →
        (Entry.isReserved first = true →
          (loop outer e).lookup path = (base e.bindings).lookup path ∧
            (first ∉ Fields.keys e.bindings → (loop outer e).lookup path = .ok none)) ∧
        (Entry.isReserved first = false → first ≠ lengthName →
          (loop outer e).lookup path = (base outer.fields).lookup path) ∧
        (first = lengthName →
          (first ∈ Fields.keys outer.fields →
            (loop outer e).lookup path = (base outer.fields).lookup path) ∧
          (first ∉ Fields.keys outer.fields →
            (loop outer e).lookup path = (Value.int (loop outer e).size).follow rest)) := by
  refine ⟨names_loop outer e, nodup_names hbase, rfl, fun name => isSome_get?_iff, ?_⟩
  intro path first rest hpath
  refine ⟨fun hreserved => ?_, fun hreserved hne => ?_, ?_⟩
  · have hne := ne_lengthName_of_isReserved hreserved
    have hget : (loop outer e).get? first = Fields.get? first e.bindings :=
      get?_loop_of_isReserved hreserved
    refine ⟨lookup_congr hpath (member?_congr hne hget), fun hunbound => ?_⟩
    rw [← Fields.get?_eq_none_iff, ← hget] at hunbound
    exact lookup_of_member?_eq_none hpath (by simp [member?, hunbound, hne])
  · exact lookup_congr hpath (member?_congr hne (get?_of_not_isReserved hreserved))
  · rintro rfl
    have hget : (loop outer e).get? lengthName = Fields.get? lengthName outer.fields :=
      get?_of_not_isReserved (by decide)
    constructor
    · intro hnamed
      rw [← Fields.contains_iff, Fields.contains, Option.isSome_iff_exists] at hnamed
      obtain ⟨v, hv⟩ := hnamed
      exact lookup_congr hpath (by rw [member?, member?, hget, get?, hv])
    · intro hunnamed
      rw [← Fields.get?_eq_none_iff, ← hget] at hunnamed
      exact lookup_of_member? hpath (by decide) (by rw [member?, hunnamed]; rfl)

theorem lookup_layers_hidden :
    let fields : Fields := [(text "key", .null), (text "x", .int 1)]
    let turn := Scope.loop (.loop (.base fields) ⟨0, .null, some (text "k")⟩) ⟨0, .int 7, none⟩
    (Fields.keys fields).Nodup ∧ turn.names = [text "item", text "index", text "x"] ∧
      turn.lookup (text "key") = .ok none ∧ turn.lookup (text " x") = .ok (some (.int 1)) ∧
      turn.lookup (text "length") = .ok (some (.int 3)) := by
  intro fields turn
  have hbase : (Fields.keys fields).Nodup := by decide
  obtain ⟨hnames, -, hsize, -, hlookup⟩ :=
    lookup_layers (.loop (.base fields) ⟨0, .null, some (text "k")⟩) ⟨0, .int 7, none⟩ hbase
  obtain ⟨hkey, -, -⟩ := hlookup (text "key") (text "key") [] (by decide)
  obtain ⟨-, hx, -⟩ := hlookup (text " x") (text "x") [] (by decide)
  obtain ⟨-, -, hlength⟩ := hlookup (text "length") lengthName [] (by decide)
  refine ⟨hbase, hnames.trans (by decide), (hkey (by decide)).2 (by decide), ?_, ?_⟩
  · rw [hx (by decide) (by decide)]
    rfl
  · rw [(hlength rfl).2 (by decide), hsize, hnames]
    rfl

end Scope

end Stencil
