import Stencil.Proofs.Project.Saving
import Stencil.Yaml

/-!
# Edits of settings

The settings file of a project is edited like an ordered map: what is loaded after any edits is what
they make of the settings that were loaded first, and the other entries of the file stay. The
library for documents is trusted to set entries, and to write documents so that they read back.
-/

namespace Stencil.Project

open Outcome

variable {yaml : YamlLibrary} {disk after : Disk} {root : Path} {s t : Settings}
  {entries : List (YamlKey × YamlTree)}

/-! ## The file -/

def topEntries? : YamlTree → Option (List (YamlKey × YamlTree))
  | .mapping entries => some entries
  | .null => some []
  | _ => none

/-- The settings file holds a mapping with these entries. If it is missing or empty these are none.
The folder of a missing file is there or can be made, and this puts nothing in the file's place. -/
inductive Holds (yaml : YamlLibrary) (disk : Disk) (root : Path) :
    List (YamlKey × YamlTree) → Prop
  | missing {made : Disk} (absent : disk.isThere (settingsPath root) = false)
    (folder : withFolder disk root = .ok made) (still : made.isThere (settingsPath root) = false) :
    Holds yaml disk root []
  | document {d : yaml.Document} {entries : List (YamlKey × YamlTree)}
    (there : disk.isThere (settingsPath root) = true)
    (read : readDocument yaml disk (settingsPath root) = .ok d)
    (isMapping : topEntries? (yaml.tree d) = some entries) : Holds yaml disk root entries

theorem entriesOf_of_topEntries? {tree : YamlTree} (h : topEntries? tree = some entries) :
    entriesOf tree = entries := by
  cases tree with
  | mapping => exact Option.some.inj h
  | null => exact Option.some.inj h
  | _ => cases h

theorem Holds.fits (h : Holds yaml disk root entries) (hnames : HasPlainNames yaml disk root)
    (hload : loadSettings yaml disk root = .ok s) : Settings.Fits entries := by
  cases h with
  | missing => exact ⟨rfl, nofun⟩
  | @document d entries there read isMapping =>
    obtain ⟨hmissing, -⟩ | ⟨-, d', hread, hs⟩ := loadSettings_cases hload
    · cases there.symm.trans hmissing
    · obtain rfl := Except.ok.inj (hread.symm.trans read)
      exact entriesOf_of_topEntries? isMapping ▸ fits_of_read hnames read hs

theorem Holds.opened (h : Holds yaml disk root entries) (hyaml : yaml.FillsMappings) :
    ∃ made d q, withFolder disk root = .ok made ∧ Opened yaml made root d entries q := by
  cases h with
  | @missing made absent hfolder still =>
    obtain ⟨q, hopened⟩ := opened_of_missing hyaml hfolder still
    exact ⟨made, yaml.empty, q, hfolder, hopened⟩
  | @document d entries there read isMapping =>
    obtain ⟨hfolder, d', q, hopened⟩ := opened_of_read hyaml there read
    rw [entriesOf_of_topEntries? isMapping] at hopened
    exact ⟨disk, d', q, hfolder, hopened⟩

/-- The settings that are loaded of a file with entries that they fit into. -/
structure Stored (yaml : YamlLibrary) (disk : Disk) (root : Path)
    (entries : List (YamlKey × YamlTree)) (s : Settings) : Prop where
  holds : Holds yaml disk root entries
  loads : loadSettings yaml disk root = .ok s
  fits : Settings.Fits entries

theorem Stored.save (h : Stored yaml disk root entries s) (hyaml : yaml.FillsMappings)
    (ht : t.IsNormal) (hback : ∀ d, documentToSave yaml disk root t = .ok d → yaml.ReadsBack d) :
    ∃ after stored, saveSettings yaml disk root t = (after, .ok ()) ∧
      Stored yaml after root stored t ∧
      YamlTree.others Settings.fieldNames stored = YamlTree.others Settings.fieldNames entries := by
  obtain ⟨made, d, q, hmade, hopened⟩ := h.holds.opened hyaml
  obtain ⟨bytes, written, filled, hsave, hthere, hread, htree, hfilled⟩ :=
    hopened.save hyaml hmade hback
  have hload : loadSettings yaml (made.writeAt q bytes) root = .ok t :=
    loadSettings_of_read hthere hread (by rw [htree, ht.ofTree_filled h.fits hfilled])
  have hholds : Holds yaml (made.writeAt q bytes) root filled :=
    .document hthere hread (by rw [htree, topEntries?])
  exact ⟨_, filled, hsave, ⟨hholds, hload, h.fits.fill hfilled⟩, hfilled.keeps⟩

/-! ## Edits -/

/-- A change of settings: those that data write are stored, or a variable is set or removed. -/
inductive Edit where
  | save (data : Value)
  | set (key : Text) (v : Value)
  | remove (key : Text)

/-- What an edit answers: nothing, the new settings, or whether the variable was there. -/
inductive Answer where
  | saved
  | settings (s : Settings)
  | removed (wasThere : Bool)
  deriving DecidableEq

namespace Edit

def run (yaml : YamlLibrary) (root : Path) (disk : Disk) : Edit → Except Error (Disk × Answer)
  | save data =>
    match Settings.fault? data with
    | some e => .error (.other (.conversion e))
    | none =>
      match saveSettings yaml disk root (.ofValue data) with
      | (after, .ok ()) => .ok (after, .saved)
      | (_, .error failure) => .error (.other failure)
  | set key v =>
    match setVariable yaml disk root key v with
    | (after, .ok s) => .ok (after, .settings s)
    | (_, .error e) => .error e
  | remove key =>
    match removeVariable yaml disk root key with
    | (after, .ok wasThere) => .ok (after, .removed wasThere)
    | (_, .error e) => .error e

/-- A document can hold what the edit writes: no mapping in it has a key twice, and the names in its
lists have texts. -/
def IsPlain : Edit → Prop
  | save data => data.keysDistinct = true ∧ Settings.fault? data = none
  | set _ v => v.keysDistinct = true
  | remove _ => True

end Edit

/-! ## Edits in memory -/

/-- The names in a list, trimmed, without the blank ones. Anything but a list leaves the standard
names. -/
def namesOf (standard : List Text) : Option Value → List Text
  | some (.list items) => (items.map fun item => Text.trim item.label).filter (· ≠ [])
  | _ => standard

def fieldsOf : Option Value → Fields
  | some (.object fields) => fields
  | _ => []

def settingsOf (data : Value) : Settings :=
  let fields := fieldsOf (some data)
  ⟨⟨namesOf Selection.defaultExtensions (fields.lookup Settings.extensionsName),
      namesOf Selection.defaultExclude (fields.lookup Settings.excludeName)⟩,
    fieldsOf (fields.lookup customName)⟩

theorem namesOf_get? {standard : List Text} {key : Text} {fields : Fields} :
    namesOf standard (Fields.get? key fields) = Settings.namesIn key fields standard := by
  have hlisted : ∀ items : List Value,
      (items.map fun item => Text.trim item.label).filter (fun name => decide (name ≠ [])) =
        Settings.listedNames items := by
    intro items
    refine List.filter_congr fun name _ => ?_
    cases name <;> rfl
  unfold Settings.namesIn
  cases Fields.get? key fields with
  | none => rfl
  | some v =>
    cases v with
    | list items => exact hlisted items
    | _ => rfl

theorem fieldsOf_get? {key : Text} {fields : Fields} :
    fieldsOf (Fields.get? key fields) = Fields.within key fields := by
  unfold Fields.within
  cases Fields.get? key fields with
  | none => rfl
  | some v => cases v <;> rfl

theorem settingsOf_eq (data : Value) : settingsOf data = .ofValue data := by
  have hfields : ∀ fields : Fields, settingsOf (.object fields) = .ofFields fields := by
    intro fields
    have hdata : fieldsOf (some (.object fields)) = fields := rfl
    simp only [settingsOf, hdata, Fields.lookup_eq_get?, namesOf_get?, fieldsOf_get?]
    rfl
  cases data with
  | object fields => exact hfields fields
  | _ => exact hfields []

theorem set_eq_insert {key : Text} {v : Value} {fields : Fields} (h : (Fields.keys fields).Nodup) :
    OrderedMap.set key v fields = Fields.insert key v fields := by
  unfold OrderedMap.set
  split
  · next hkey =>
    induction fields with
    | nil => cases hkey
    | cons f fields ih =>
      obtain ⟨hf, hfields⟩ := List.nodup_cons.1 h
      by_cases heq : f.1 = key
      · have hrest : ∀ g ∈ fields, g.1 ≠ key := fun g hg hgkey =>
          hf (heq.trans hgkey.symm ▸ List.mem_map_of_mem hg)
        have hsame : fields.map (fun e => if e.1 = key then (key, v) else e) = fields := by
          rw [List.map_congr_left fun g hg => if_neg (hrest g hg), List.map_id']
        simp [Fields.insert, heq, hsame]
      · have hmem : key ∈ Fields.keys fields := (List.mem_cons.1 hkey).resolve_left (Ne.symm heq)
        simp [Fields.insert, heq, ih hfields hmem]
  · next hkey => rw [Fields.insert_of_not_mem hkey]

theorem remove_eq_erase {key : Text} {fields : Fields} (h : (Fields.keys fields).Nodup) :
    OrderedMap.remove key fields = Fields.erase key fields := by
  induction fields with
  | nil => rfl
  | cons f fields ih =>
    obtain ⟨hf, hfields⟩ := List.nodup_cons.1 h
    by_cases heq : f.1 = key
    · have hkey : key ∉ fields.map Prod.fst := heq ▸ hf
      have hrest := OrderedMap.remove_of_notMem hkey
      rw [OrderedMap.remove] at hrest ⊢
      simpa [Fields.erase, heq] using hrest
    · have hrest := ih hfields
      rw [OrderedMap.remove] at hrest ⊢
      simpa [Fields.erase, heq] using hrest

namespace Edit

variable {edit : Edit}

/-- What the edit makes of settings in memory. -/
def apply (s : Settings) : Edit → Settings
  | save data => settingsOf data
  | set key v => { s with custom := OrderedMap.set key v s.custom }
  | remove key => { s with custom := OrderedMap.remove key s.custom }

def answer (s : Settings) : Edit → Answer
  | save _ => .saved
  | set key v => .settings ((set key v).apply s)
  | remove key => .removed (Fields.contains key s.custom)

/-- The settings that the edit stores; a variable that is missing is removed without a write. -/
def stored? (s : Settings) (edit : Edit) : Option Settings :=
  if edit.answer s = .removed false then none else some (edit.apply s)

/-- The document that the edit writes, if it writes one. -/
def written? (yaml : YamlLibrary) (root : Path) (disk : Disk) (edit : Edit) :
    Option yaml.Document := do
  let s ← (loadSettings yaml disk root).toOption
  (documentToSave yaml disk root (← edit.stored? s)).toOption

theorem IsPlain.apply (h : edit.IsPlain) (hs : s.IsNormal) : (edit.apply s).IsNormal := by
  have hnodup := (Value.keysDistinct_object.1 hs.custom).1
  cases edit with
  | save data =>
    rw [Edit.apply, settingsOf_eq]
    exact Settings.isNormal_ofValue h.1
  | set key v =>
    rw [Edit.apply, set_eq_insert hnodup]
    exact hs.setVariable h
  | remove key =>
    rw [Edit.apply, remove_eq_erase hnodup]
    exact hs.removeVariable

theorem run_of_save (h : edit.IsPlain) (hload : loadSettings yaml disk root = .ok s)
    (hanswer : edit.answer s ≠ .removed false)
    (hsave : saveSettings yaml disk root (edit.apply s) = (after, .ok ())) :
    edit.run yaml root disk = .ok (after, edit.answer s) := by
  have hnodup := (Value.keysDistinct_object.1 (isNormal_of_loadSettings hload).custom).1
  cases edit with
  | save data =>
    rw [Edit.apply, settingsOf_eq] at hsave
    simp only [run, h.2, hsave, answer]
  | set key v =>
    have happly : (set key v).apply s = s.setVariable key v := by
      rw [Edit.apply, set_eq_insert hnodup, Settings.setVariable]
    rw [happly] at hsave
    simp only [run, setVariable, hload, hsave, answer, happly]
  | remove key =>
    have hcontains : Fields.contains key s.custom = true := by
      by_contra hnot
      exact hanswer (by rw [answer, Bool.eq_false_iff.2 hnot])
    rw [Edit.apply, remove_eq_erase hnodup] at hsave
    simp only [Settings.removeVariable, run, removeVariable, hload, hcontains, hsave, answer,
      Bool.not_true, Bool.false_eq_true, if_false]

theorem run_of_missing (hload : loadSettings yaml disk root = .ok s)
    (hanswer : edit.answer s = .removed false) :
    edit.run yaml root disk = .ok (disk, .removed false) ∧ edit.apply s = s := by
  cases edit with
  | save data => cases hanswer
  | set key v => cases hanswer
  | remove key =>
    have hcontains : Fields.contains key s.custom = false := Answer.removed.inj hanswer
    have hkey : key ∉ Fields.keys s.custom :=
      Fields.contains_iff.not.1 (Bool.eq_false_iff.1 hcontains)
    constructor
    · simp only [run, removeVariable, hload, hcontains, Bool.not_false, if_true]
    · rw [apply, OrderedMap.remove_of_notMem hkey]

/-- One edit: the file holds what the edit makes of its settings, next to its other entries. -/
theorem step (h : Stored yaml disk root entries s) (hyaml : yaml.FillsMappings)
    (hplain : edit.IsPlain) (hback : ∀ d ∈ edit.written? yaml root disk, yaml.ReadsBack d) :
    ∃ after stored, edit.run yaml root disk = .ok (after, edit.answer s) ∧
      Stored yaml after root stored (edit.apply s) ∧
      YamlTree.others Settings.fieldNames stored = YamlTree.others Settings.fieldNames entries ∧
      (edit.answer s = .removed false → after = disk) := by
  -- Only a variable that is missing is removed without a write.
  by_cases hanswer : edit.answer s = .removed false
  · obtain ⟨hrun, happly⟩ := run_of_missing h.loads hanswer
    exact ⟨disk, entries, hanswer ▸ hrun, happly.symm ▸ h, rfl, fun _ => rfl⟩
  · have hnormal := hplain.apply (isNormal_of_loadSettings h.loads)
    have hsaved : ∀ d, documentToSave yaml disk root (edit.apply s) = .ok d → yaml.ReadsBack d := by
      intro d hd
      refine hback d ?_
      simp [written?, stored?, h.loads, hanswer, hd, Except.toOption]
    obtain ⟨after, stored, hsave, hstored, hothers⟩ := h.save hyaml hnormal hsaved
    exact ⟨after, stored, run_of_save hplain h.loads hanswer hsave, hstored, hothers,
      fun hmissing => absurd hmissing hanswer⟩

end Edit

/-! ## Runs of edits -/

def runEdits (yaml : YamlLibrary) (root : Path) : Disk → List Edit → Except Error Disk
  | disk, [] => .ok disk
  | disk, edit :: edits => do
    let (after, _) ← edit.run yaml root disk
    runEdits yaml root after edits

/-- The documents that are written by edits that are made one after the other. -/
def writtenDocuments (yaml : YamlLibrary) (root : Path) : Disk → List Edit → List yaml.Document
  | _, [] => []
  | disk, edit :: edits =>
    (edit.written? yaml root disk).toList ++
      match edit.run yaml root disk with
      | .ok (after, _) => writtenDocuments yaml root after edits
      | .error _ => []

variable {edits rest : List Edit}

/-- After any edits the file holds what they make of the settings in memory; more edits may come. -/
theorem Stored.runEdits (h : Stored yaml disk root entries s) (hyaml : yaml.FillsMappings)
    (hplain : ∀ edit ∈ edits, edit.IsPlain)
    (hback : ∀ d ∈ writtenDocuments yaml root disk (edits ++ rest), yaml.ReadsBack d) :
    ∃ before stored, runEdits yaml root disk edits = .ok before ∧
      Stored yaml before root stored (edits.foldl Edit.apply s) ∧
      YamlTree.others Settings.fieldNames stored = YamlTree.others Settings.fieldNames entries ∧
      ∀ d ∈ writtenDocuments yaml root before rest, yaml.ReadsBack d := by
  -- Every edit leaves a file that holds settings, from which the next one starts.
  induction edits generalizing disk entries s with
  | nil => exact ⟨disk, entries, rfl, h, rfl, hback⟩
  | cons edit edits ih =>
    obtain ⟨hedit, hedits⟩ := List.forall_mem_cons.1 hplain
    rw [List.cons_append, writtenDocuments] at hback
    obtain ⟨hfirst, hnext⟩ := List.forall_mem_append.1 hback
    obtain ⟨after, stored, hrun, hstored, hothers, -⟩ :=
      Edit.step h hyaml hedit fun d hd => hfirst d (Option.mem_toList.2 hd)
    rw [hrun] at hnext
    obtain ⟨before, last, hruns, hlast, hkept, hrest⟩ := ih hstored hedits hnext
    exact ⟨before, last, bind_eq_ok_iff.2 ⟨_, hrun, hruns⟩, hlast, hkept.trans hothers, hrest⟩

/-- What an edit does to the file and answers: `s` are the settings in front of it, `t` those
behind it, and `entries` are those of the file before all edits. -/
structure Edit.Done (yaml : YamlLibrary) (root : Path) (entries : List (YamlKey × YamlTree))
    (edit : Edit) (s t : Settings) (before after : Disk) (answer : Answer) : Prop where
  loads : loadSettings yaml after root = .ok t
  /-- Saved data replace all settings. -/
  saves : ∀ data, edit = .save data → t = settingsOf data ∧ answer = .saved
  /-- A variable that is set has its value and no other. It keeps its place if it was there, and
  goes last if it is new. -/
  sets : ∀ key v, edit = .set key v → answer = .settings t ∧
    (∀ w, (key, w) ∈ t.custom ↔ w = v) ∧
    Fields.keys t.custom = if key ∈ Fields.keys s.custom then Fields.keys s.custom
      else Fields.keys s.custom ++ [key]
  /-- A variable that is removed is gone. The answer tells whether it was there; if it was not,
  every byte is as it was. -/
  removes : ∀ key, edit = .remove key → key ∉ Fields.keys t.custom ∧
    ∃ wasThere, answer = .removed wasThere ∧ (wasThere = true ↔ key ∈ Fields.keys s.custom) ∧
      (wasThere = false → after = before)
  /-- The other variables and what is selected stay as they are. -/
  stays : ∀ key, (∃ v, edit = .set key v) ∨ edit = .remove key → t.selection = s.selection ∧
    t.custom.filter (fun f => decide (f.1 ≠ key)) = s.custom.filter fun f => decide (f.1 ≠ key)
  /-- So do the other entries of the file. -/
  keeps : ∃ stored, Holds yaml after root stored ∧
    YamlTree.others Settings.fieldNames stored = YamlTree.others Settings.fieldNames entries

/-- Whatever edits were made to a settings file that is missing, empty or a mapping, and whichever
is made next: each of them is done in the file as it is in memory. -/
theorem edits_done (edits : List Edit) (edit : Edit) (hyaml : yaml.FillsMappings)
    (h : Holds yaml disk root entries) (hnames : HasPlainNames yaml disk root)
    (hload : loadSettings yaml disk root = .ok s) (hplain : ∀ e ∈ edits ++ [edit], e.IsPlain)
    (hback : ∀ d ∈ writtenDocuments yaml root disk (edits ++ [edit]), yaml.ReadsBack d) :
    ∃ before after answer, runEdits yaml root disk edits = .ok before ∧
      loadSettings yaml before root = .ok (edits.foldl Edit.apply s) ∧
      edit.run yaml root before = .ok (after, answer) ∧
      edit.Done yaml root entries (edits.foldl Edit.apply s) (edit.apply (edits.foldl Edit.apply s))
        before after answer := by
  obtain ⟨hedits, hedit⟩ := List.forall_mem_append.1 hplain
  have hstored : Stored yaml disk root entries s := ⟨h, hload, h.fits hnames hload⟩
  obtain ⟨before, middle, hruns, hbefore, hothers, hlast⟩ := hstored.runEdits hyaml hedits hback
  rw [writtenDocuments] at hlast
  have hdocuments := (List.forall_mem_append.1 hlast).1
  generalize edits.foldl Edit.apply s = s at hbefore ⊢
  obtain ⟨after, last, hrun, hafter, hkept, huntouched⟩ :=
    Edit.step hbefore hyaml (hedit edit (List.mem_singleton.2 rfl))
      fun d hd => hdocuments d (Option.mem_toList.2 hd)
  refine ⟨before, after, _, hruns, hbefore.loads, hrun, hafter.loads, ?_, ?_, ?_, ?_,
    last, hafter.holds, hkept.trans hothers⟩
  · rintro data rfl
    exact ⟨rfl, rfl⟩
  · rintro key v rfl
    refine ⟨rfl, fun w => OrderedMap.mem_set_self, ?_⟩
    split
    · next hkey => exact OrderedMap.keys_set_of_mem hkey
    · next hkey => exact OrderedMap.keys_set_of_notMem hkey
  · rintro key rfl
    refine ⟨OrderedMap.notMem_remove, _, rfl, Fields.contains_iff, fun hmissing => huntouched ?_⟩
    rw [Edit.answer, hmissing]
  · rintro key (⟨v, rfl⟩ | rfl)
    · exact ⟨rfl, OrderedMap.filter_set (p := fun name => decide (name ≠ key)) (by simp)⟩
    · exact ⟨rfl, OrderedMap.filter_remove (p := fun name => decide (name ≠ key)) (by simp)⟩

/-- The reader and the writer of documents, without what they keep besides values. -/
def plainLibrary : YamlLibrary :=
  .ofTrees (fun bytes => (Yaml.library.load bytes).map Yaml.library.tree)
    (fun tree => Yaml.library.dump
      (Yaml.library.update Yaml.library.empty (fieldsOf (some tree.toValue))))
    Yaml.library.readValue

def english : Disk where
  files := [(settingsPath [], Utf8.ofText (text "lang: en\nextensions: []\nexclude: []\n"))]
  folders := []

def englishEntries : List (YamlKey × YamlTree) :=
  [(.text (text "lang"), .str (text "en")), (.text Settings.extensionsName, .list []),
    (.text Settings.excludeName, .list [])]

theorem readDocument_english :
    ∃ d, readDocument plainLibrary english (settingsPath []) = .ok d ∧
      plainLibrary.tree d = .mapping englishEntries := by
  have hread : (readDocument plainLibrary english (settingsPath [])).map plainLibrary.tree =
      .ok (.mapping englishEntries) := by decide +kernel
  exact map_eq_ok_iff.1 hread

theorem hasPlainNames_english : HasPlainNames plainLibrary english [] := by
  obtain ⟨d, hread, htree⟩ := readDocument_english
  intro d' hread'
  obtain rfl := Except.ok.inj (hread.symm.trans hread')
  rw [htree]
  decide

theorem edits_done_english :
    let edits := [Edit.set (text "a") (.str (text "x")), Edit.remove (text "b")]
    ∃ s before after answer, loadSettings plainLibrary english [] = .ok s ∧
      runEdits plainLibrary [] english edits = .ok before ∧
      loadSettings plainLibrary before [] = .ok (edits.foldl Edit.apply s) ∧
      (Edit.remove (text "a")).run plainLibrary [] before = .ok (after, answer) ∧
      (Edit.remove (text "a")).Done plainLibrary [] englishEntries (edits.foldl Edit.apply s)
        ((Edit.remove (text "a")).apply (edits.foldl Edit.apply s)) before after answer := by
  intro edits
  obtain ⟨d, hread, htree⟩ := readDocument_english
  have hthere : english.isThere (settingsPath []) = true := by decide +kernel
  have hholds : Holds plainLibrary english [] englishEntries :=
    .document hthere hread (by rw [htree, topEntries?])
  have hload : loadSettings plainLibrary english [] = .ok ⟨⟨[], []⟩, []⟩ := by decide +kernel
  have hplain : ∀ e ∈ edits ++ [Edit.remove (text "a")], e.IsPlain := by
    simp [edits, Edit.IsPlain, Value.keysDistinct]
  obtain ⟨before, after, answer, hdone⟩ := edits_done edits (.remove (text "a"))
    YamlLibrary.fillsMappings_ofTrees hholds hasPlainNames_english hload hplain (by decide +kernel)
  exact ⟨_, before, after, answer, hload, hdone⟩

end Stencil.Project
