import Stencil.Proofs.Text.Trimming
import Stencil.Proofs.YamlLibrary
import Stencil.Settings

/-!
# Settings that are stored

Loaded settings are in a normal form, and edits keep it. Settings in normal form are found again in
the entries that they are stored as, next to whatever other entries there are.
-/

namespace Stencil.Settings

open YamlTree (IsFilled)

variable {s : Settings} {fields : Fields} {key name : Text} {names : List Text} {v : Value}
  {entries filled : List (YamlKey × YamlTree)} {tree : YamlTree}

def fieldNames : List Text := [extensionsName, excludeName, customName]

/-- The form in which settings are loaded: names without blanks at their ends, and variables with
different keys, also inside of their values. -/
structure IsNormal (s : Settings) : Prop where
  extensions : ∀ name ∈ s.selection.extensions, name.Tight
  exclude : ∀ name ∈ s.selection.exclude, name.Tight
  custom : (Value.object s.custom).keysDistinct = true

/-! ## Names -/

theorem tight_of_mem_listedNames {items : List Value} (h : name ∈ listedNames items) :
    name.Tight := by
  obtain ⟨hmem, hne⟩ := List.mem_filter.1 h
  obtain ⟨v, -, rfl⟩ := List.mem_map.1 hmem
  exact Text.tight_trim (by simpa using hne)

theorem listedNames_map_str (h : ∀ name ∈ names, name.Tight) :
    listedNames (names.map .str) = names := by
  have hmap : (names.map Value.str).map (fun v => Text.trim v.label) = names := by
    rw [List.map_map]
    exact (List.map_congr_left fun name hname => (h name hname).trim_eq).trans (List.map_id names)
  rw [listedNames, hmap, List.filter_eq_self]
  intro name hname
  simpa using (h name hname).ne_nil

theorem tight_of_mem_namesIn {standard : List Text} (hstandard : ∀ name ∈ standard, name.Tight)
    (h : name ∈ namesIn key fields standard) : name.Tight := by
  unfold namesIn at h
  split at h
  · exact tight_of_mem_listedNames h
  · exact hstandard name h

/-! ## The normal form -/

theorem keysDistinct_within (h : (Value.object fields).keysDistinct = true) :
    (Value.object (Fields.within key fields)).keysDistinct = true := by
  unfold Fields.within
  split
  · next inner hinner => exact (Value.keysDistinct_object.1 h).2 _ (Fields.mem_of_get? hinner)
  · rfl

theorem isNormal_ofFields (h : (Value.object fields).keysDistinct = true) :
    (ofFields fields).IsNormal where
  extensions := fun _ => tight_of_mem_namesIn (by decide)
  exclude := fun _ => tight_of_mem_namesIn (by decide)
  custom := keysDistinct_within h

theorem isNormal_ofValue (h : v.keysDistinct = true) : (ofValue v).IsNormal := by
  have hstandard : standard.IsNormal := @isNormal_ofFields [] rfl
  cases v with
  | object fields => exact isNormal_ofFields h
  | _ => exact hstandard

theorem isNormal_ofTree (h : ofTree tree = .ok s) : s.IsNormal := by
  have hvalue := isNormal_ofValue (YamlTree.keysDistinct_toValue tree)
  unfold ofTree at h
  split at h
  · split at h
    · cases h
    · exact Except.ok.inj h ▸ hvalue
  · exact Except.ok.inj h ▸ @isNormal_ofFields [] rfl

theorem IsNormal.setVariable (h : s.IsNormal) (hv : v.keysDistinct = true) :
    (s.setVariable key v).IsNormal :=
  ⟨h.extensions, h.exclude, Value.keysDistinct_insert h.custom hv⟩

theorem IsNormal.removeVariable (h : s.IsNormal) : (s.removeVariable key).IsNormal :=
  ⟨h.extensions, h.exclude, Value.keysDistinct_erase h.custom⟩

/-! ## Stored settings -/

theorem IsNormal.keysDistinct_toFields (h : s.IsNormal) :
    ∀ f ∈ s.toFields, f.2.keysDistinct = true := by
  have hlist : ∀ names : List Text, (Value.list (names.map .str)).keysDistinct = true := by
    intro names
    rw [Value.keysDistinct, Value.itemsDistinct_iff]
    intro v hv
    obtain ⟨name, -, rfl⟩ := List.mem_map.1 hv
    rfl
  intro f hf
  simp only [Settings.toFields, List.mem_cons, List.not_mem_nil, or_false] at hf
  obtain rfl | rfl | rfl := hf
  · exact hlist _
  · exact hlist _
  · exact h.custom

theorem IsNormal.ofFields_stored (h : s.IsNormal)
    (hstored : ∀ f ∈ s.toFields, Fields.get? f.1 fields = some f.2) : ofFields fields = s := by
  simp only [Settings.toFields, List.forall_mem_cons] at hstored
  obtain ⟨hextensions, hexclude, hcustom, -⟩ := hstored
  simp only [ofFields, namesIn, Fields.within, hextensions, hexclude, hcustom,
    listedNames_map_str h.extensions, listedNames_map_str h.exclude]

theorem fault?_stored (hstored : ∀ f ∈ s.toFields, Fields.get? f.1 fields = some f.2) :
    fault? (.object fields) = none := by
  simp only [Settings.toFields, List.forall_mem_cons] at hstored
  obtain ⟨hextensions, hexclude, -⟩ := hstored
  have htexts : ∀ names : List Text, Value.shownItemsFault? (names.map .str) = none := by
    intro names
    induction names with
    | nil => rfl
    | cons name names ih => exact ih
  rw [fault?, namesFault?, namesFault?, hextensions, hexclude]
  simp only [htexts]
  rfl

/-- Entries that settings can be stored among: all of them have texts and values, and no key but a
text reads like a name that settings are stored under. -/
structure Fits (entries : List (YamlKey × YamlTree)) : Prop where
  texts : YamlTree.entriesFault? entries = none
  names : ∀ e ∈ entries, e.1.label ∈ fieldNames → e.1 = .text e.1.label

theorem Fits.fill (h : Fits entries) (hfilled : IsFilled entries s.toFields filled) :
    Fits filled where
  texts := by
    rw [YamlTree.entriesFault?_eq_none_iff]
    intro e he
    obtain ⟨f, -, rfl⟩ | hother := hfilled.mem_cases he
    · exact ⟨rfl, YamlTree.fault?_ofValue f.2⟩
    · exact YamlTree.entriesFault?_eq_none_iff.1 h.texts e (List.mem_of_mem_filter hother)
  names := by
    intro e he hname
    obtain ⟨f, -, rfl⟩ | hother := hfilled.mem_cases he
    · rfl
    · exact h.names e (List.mem_of_mem_filter hother) hname

theorem Fits.get?_filled (h : Fits entries) (hs : s.IsNormal)
    (hfilled : IsFilled entries s.toFields filled) {f : Text × Value} (hf : f ∈ s.toFields) :
    Fields.get? f.1 (Fields.ofPairs (YamlTree.toPairs filled)) = some f.2 := by
  have hvalue := YamlTree.toValue_ofValue f.2 (hs.keysDistinct_toFields f hf)
  refine YamlTree.get?_ofPairs_toPairs ⟨_, (hfilled.sets f hf _).2 rfl, rfl⟩ ?_
  rintro ⟨key, t⟩ he hlabel
  have hname : key.label ∈ fieldNames := by
    rw [hlabel]
    exact List.mem_map_of_mem (f := Prod.fst) hf
  have hkey := (h.fill hfilled).names _ he hname
  rw [hlabel] at hkey
  obtain rfl : key = .text f.1 := hkey
  obtain rfl := (hfilled.sets f hf t).1 he
  exact hvalue

/-- Settings in normal form are loaded from the entries that they are stored among. -/
theorem IsNormal.ofTree_filled (hs : s.IsNormal) (h : Fits entries)
    (hfilled : IsFilled entries s.toFields filled) : ofTree (.mapping filled) = .ok s := by
  have hfields := fun f hf => h.get?_filled hs hfilled (f := f) hf
  rw [ofTree, YamlTree.fault?, (h.fill hfilled).texts, YamlTree.toValue, fault?_stored hfields]
  exact congrArg Except.ok (hs.ofFields_stored hfields)

end Stencil.Settings
