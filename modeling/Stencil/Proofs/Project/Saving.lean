import Stencil.Proofs.Project.Loading

/-!
# Saved settings

Settings that are saved are what is loaded afterwards, and stand next to the other entries of their
file. The library for documents is trusted to set entries, and to write a document so that it reads
back.
-/

namespace Stencil.Project

open Outcome
open YamlTree (IsFilled)

variable {yaml : YamlLibrary} {disk made : Disk} {root q : Path} {d : yaml.Document} {s : Settings}
  {entries : List (YamlKey × YamlTree)} {bytes : Bytes}

/-! ## The folder -/

theorem isFolder_withFolder (h : withFolder disk root = .ok made) :
    made.isFolder (folder root) = true := by
  unfold withFolder at h
  split at h
  · next hfolder => exact Except.ok.inj h ▸ hfolder
  · obtain ⟨-, -, there, hfollow, hthere⟩ := Disk.makeFolders_eq_ok (mapError_eq_ok_iff.1 h)
    rw [Disk.isFolder, hfollow]
    exact hthere

theorem withFolder_of_follow {name : Text} (h : disk.follow [] (folder root ++ [name]) = .ok q) :
    withFolder disk root = .ok disk := by
  rw [withFolder, Disk.isFolder_of_follow h]
  rfl

theorem isThere_withFolder {name : Text} (hroot : Path.up ∉ root) (hname : name ≠ Path.up)
    (h : withFolder disk root = .ok made) :
    made = disk ∨ disk.isThere (folder root ++ [name]) = false ∧
      made.isThere (folder root ++ [name]) = false := by
  have hconfig : configFolder ≠ Path.up := by decide
  have hpath : Path.up ∉ folder root ++ [name] := by simp [folder, hroot, hconfig.symm, hname.symm]
  unfold withFolder at h
  split at h
  · exact .inl (Except.ok.inj h).symm
  · next hfolder =>
    have hmissing := Bool.eq_false_iff.2 hfolder
    refine .inr ⟨?_, Disk.isThere_makeFolders hpath hmissing (mapError_eq_ok_iff.1 h)⟩
    cases hq : disk.follow [] (folder root ++ [name]) with
    | error e => simp [Disk.isThere, Disk.isFile, Disk.isFolder, hq]
    | ok q => exact absurd (Disk.isFolder_of_follow hq) hfolder

theorem loadConfig_withFolder (hroot : Path.up ∉ root) (h : withFolder disk root = .ok made) :
    loadConfig made root = loadConfig disk root := by
  have hname : text "config.json" ≠ Path.up := by decide
  obtain rfl | ⟨hbefore, hafter⟩ := isThere_withFolder hroot hname h
  · rfl
  · simp [loadConfig, configPath, hbefore, hafter]

/-! ## The file -/

/-- The entries of a document; one that is no mapping has none. -/
def entriesOf : YamlTree → List (YamlKey × YamlTree)
  | .mapping entries => entries
  | _ => []

/-- What is met when settings are saved: a document with its entries, and a place for the file. -/
structure Opened (yaml : YamlLibrary) (made : Disk) (root : Path) (d : yaml.Document)
    (entries : List (YamlKey × YamlTree)) (q : Path) : Prop where
  opens : payload yaml made root = .ok d
  isMapping : yaml.tree d = .mapping entries
  leads : made.follow [] (settingsPath root) = .ok q
  isFree : made.isFolderAt q = false

theorem opened_of_missing (hyaml : yaml.FillsMappings) (hmade : withFolder disk root = .ok made)
    (h : made.isThere (settingsPath root) = false) :
    ∃ q, Opened yaml made root yaml.empty [] q := by
  have hname : (text "templates.yaml" == Path.up) = false := by decide
  obtain ⟨place, -, hfollow⟩ := Disk.exists_follow_of_isFolder hname (isFolder_withFolder hmade)
  refine ⟨_, ?_, hyaml.empty, hfollow, Disk.not_isFolderAt_of_not_isThere hfollow h⟩
  rw [payload, h]
  rfl

/-- Only a mapping with entries is kept as it is written. -/
theorem payload_of_read (hthere : disk.isThere (settingsPath root) = true)
    (h : readDocument yaml disk (settingsPath root) = .ok d) :
    payload yaml disk root =
      .ok (if (entriesOf (yaml.tree d)).isEmpty then yaml.empty else d) := by
  unfold payload
  rw [hthere, h, Bool.not_true, if_neg Bool.false_ne_true]
  dsimp only [bind, Except.bind, pure, Except.pure]
  split
  · next e entries htree => rw [htree]; rfl
  · next hother =>
    cases htree : yaml.tree d with
    | mapping entries =>
      cases entries with
      | nil => rfl
      | cons e entries => exact absurd htree (hother e entries)
    | _ => rfl

theorem opened_of_read (hyaml : yaml.FillsMappings)
    (hthere : disk.isThere (settingsPath root) = true)
    (h : readDocument yaml disk (settingsPath root) = .ok d) :
    withFolder disk root = .ok disk ∧
      ∃ d' q, Opened yaml disk root d' (entriesOf (yaml.tree d)) q := by
  obtain ⟨bytes, hbytes, -⟩ := bind_eq_ok_iff.1 h
  obtain ⟨q, hfollow, hq⟩ := Disk.exists_file_of_readBytes (mapError_eq_ok_iff.1 hbytes)
  have hfree : disk.isFolderAt q = false := by rw [Disk.isFolderAt, hq]; rfl
  refine ⟨withFolder_of_follow hfollow, _, q, payload_of_read hthere h, ?_, hfollow, hfree⟩
  generalize htree : yaml.tree d = tree
  cases tree with
  | mapping entries =>
    cases entries with
    | nil => exact hyaml.empty
    | cons e entries => exact htree
  | _ => exact hyaml.empty

/-- No key in the settings file but a text reads like a name that settings are stored under. In a
mapping of plain values none does: only a scalar with a tag of its own could. -/
def HasPlainNames (yaml : YamlLibrary) (disk : Disk) (root : Path) : Prop :=
  ∀ d, readDocument yaml disk (settingsPath root) = .ok d →
    ∀ e ∈ entriesOf (yaml.tree d), e.1.label ∈ Settings.fieldNames → e.1 = .text e.1.label

theorem fits_of_read (hnames : HasPlainNames yaml disk root)
    (h : readDocument yaml disk (settingsPath root) = .ok d)
    (hs : Settings.ofTree (yaml.tree d) = .ok s) : Settings.Fits (entriesOf (yaml.tree d)) where
  texts := by
    have hnamed := isNamed_of_ofTree hs
    generalize yaml.tree d = tree at hnamed
    cases tree with
    | mapping entries => exact hnamed.1
    | _ => rfl
  names := hnames d h

theorem exists_opened (hyaml : yaml.FillsMappings) (hnames : HasPlainNames yaml disk root)
    (hload : loadSettings yaml disk root = .ok s) (hmade : withFolder disk root = .ok made)
    (hstill : disk.isThere (settingsPath root) = false →
      made.isThere (settingsPath root) = false) :
    ∃ d entries q, Opened yaml made root d entries q ∧ Settings.Fits entries := by
  obtain ⟨hmissing, -⟩ | ⟨hthere, d, hread, hs⟩ := loadSettings_cases hload
  · obtain ⟨q, hopened⟩ := opened_of_missing hyaml hmade (hstill hmissing)
    exact ⟨_, _, q, hopened, rfl, nofun⟩
  · obtain ⟨hfolder, d', q, hopened⟩ := opened_of_read hyaml hthere hread
    obtain rfl := Except.ok.inj (hfolder.symm.trans hmade)
    exact ⟨d', _, q, hopened, fits_of_read hnames hread hs⟩

/-! ## Saving -/

def documentToSave (yaml : YamlLibrary) (disk : Disk) (root : Path) (s : Settings) :
    Except Failure yaml.Document := do
  let made ← withFolder disk root
  return yaml.update (← payload yaml made root) s.toFields

theorem Opened.save (h : Opened yaml made root d entries q) (hyaml : yaml.FillsMappings)
    (hmade : withFolder disk root = .ok made)
    (hback : ∀ d, documentToSave yaml disk root s = .ok d → yaml.ReadsBack d) :
    ∃ bytes written filled,
      saveSettings yaml disk root s = (made.writeAt q bytes, .ok ()) ∧
      (made.writeAt q bytes).isThere (settingsPath root) = true ∧
      readDocument yaml (made.writeAt q bytes) (settingsPath root) = .ok written ∧
      yaml.tree written = .mapping filled ∧ IsFilled entries s.toFields filled := by
  have hnodup : (Fields.keys s.toFields).Nodup := show Settings.fieldNames.Nodup by decide
  obtain ⟨filled, htree, hfilled⟩ := hyaml.update d entries s.toFields h.isMapping hnodup
  have hsaved : documentToSave yaml disk root s = .ok (yaml.update d s.toFields) :=
    bind_eq_ok_iff.2 ⟨made, hmade, bind_eq_ok_iff.2 ⟨d, h.opens, rfl⟩⟩
  -- Reading what is written gives what the document holds, which is known.
  obtain ⟨written, hwritten, hholds⟩ := map_eq_ok_iff.1 (hback _ hsaved)
  obtain ⟨t, hdump, hwritten⟩ := bind_eq_ok_iff.1 hwritten
  obtain ⟨hthere, hbytes⟩ := @Disk.read_of_write made _ q t h.leads h.isFree
  refine ⟨t, written, filled, ?_, hthere, ?_, hholds.trans htree, hfilled⟩
  · simp only [saveSettings, hmade, h.opens, writeDocument, h.leads, hdump]
  · exact bind_eq_ok_iff.2 ⟨_, mapError_eq_ok_iff.2 hbytes, mapError_eq_ok_iff.2 hwritten⟩

theorem Opened.loadConfig_writeAt (h : Opened yaml made root d entries q) :
    loadConfig (made.writeAt q bytes) root = loadConfig made root := by
  have hsettings : (text "templates.yaml" == Path.up) = false := by decide
  have hconfig : (text "config.json" == Path.up) = false := by decide
  obtain ⟨place, rfl, hplace⟩ := Disk.exists_follow_beside hsettings hconfig h.leads
  have hbeside : ¬ place ++ [text "config.json"] <+: place ++ [text "templates.yaml"] := by
    rw [List.prefix_append_right_inj]
    decide
  obtain ⟨hthere, hbytes⟩ :=
    @Disk.same_beside made (configPath root) _ bytes _ h.isFree hplace hbeside
  have htext : (made.writeAt (place ++ [text "templates.yaml"]) bytes).readText (configPath root) =
      made.readText (configPath root) := by
    rw [Disk.readText, Disk.readText, hbytes]
  simp only [loadConfig, hthere, htext]

/-- A variable that is set is loaded with the settings, and the configuration stays. -/
theorem setVariable_stored {key : Text} {v : Value} (hload : loadSettings yaml disk root = .ok s)
    (hyaml : yaml.FillsMappings) (hmade : withFolder disk root = .ok made)
    (h : Opened yaml made root d entries q) (hfits : Settings.Fits entries)
    (hv : v.keysDistinct = true)
    (hback : ∀ d, documentToSave yaml disk root (s.setVariable key v) = .ok d →
      yaml.ReadsBack d) :
    ∃ after, setVariable yaml disk root key v = (after, .ok (s.setVariable key v)) ∧
      loadSettings yaml after root = .ok (s.setVariable key v) ∧
      loadConfig after root = loadConfig made root := by
  have hnormal : (s.setVariable key v).IsNormal := (isNormal_of_loadSettings hload).setVariable hv
  obtain ⟨bytes, written, filled, hsave, hthere, hread, htree, hfilled⟩ :=
    h.save hyaml hmade hback
  refine ⟨_, ?_, loadSettings_of_read hthere hread ?_, h.loadConfig_writeAt⟩
  · simp only [setVariable, hload, hsave]
  · rw [htree, hnormal.ofTree_filled hfits hfilled]

end Stencil.Project
