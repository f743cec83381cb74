import Stencil.Proofs.Folder.Reading
import Stencil.Proofs.Settings
import Stencil.Project

/-!
# Projects that cannot be loaded

As long as the configuration and the settings of a project are texts, what is wrong with them is
reported as an error that names the file.
-/

namespace Stencil.Project

open Outcome

variable {α : Type} {yaml : YamlLibrary} {disk : Disk} {root p : Path} {s : Settings}

/-! ## Errors that name a file -/

/-- The error is about this file. -/
def Error.Names (p : Path) : Error → Prop
  | unreadableConfig q _ | configNotObject q | unreadableSettings q _ => q = p
  | other _ => False

/-- Whatever goes wrong, the error is about this file. -/
def Explains (p : Path) (x : Except Error α) : Prop := ∀ e, x = .error e → e.Names p

theorem explains_ok {a : α} : Explains p (.ok a) := nofun

theorem explains_error {e : Error} (h : e.Names p) : Explains p (.error e : Except Error α) := by
  intro e' he
  exact Except.error.inj he ▸ h

/-! ## The configuration -/

/-- No number in the configuration has more digits than are read. -/
def NumbersFit (disk : Disk) (root : Path) : Prop :=
  ∀ s e, disk.readText (configPath root) = .ok s → Json.read s ≠ .error (.number e)

theorem explains_loadConfig_iff (h : NumbersFit disk root) :
    Explains (configPath root) (loadConfig disk root) ↔
      ∀ fault, disk.readText (configPath root) ≠ .error (.undecodable fault) := by
  unfold loadConfig
  dsimp only
  cases hthere : disk.isThere (configPath root) with
  | false =>
    -- What is not there is not decoded either.
    refine iff_of_true explains_ok fun fault hfault => ?_
    obtain ⟨q, hq, hfile⟩ := Disk.exists_of_undecodable hfault
    rw [Disk.isThere, (Disk.isFolder_of_file hq hfile).1] at hthere
    cases hthere
  | true =>
    rw [Bool.not_true, if_neg Bool.false_ne_true]
    cases hread : disk.readText (configPath root) with
    | error failure =>
      obtain ⟨e, rfl⟩ | ⟨fault, rfl⟩ := Disk.readText_eq_error hread
      · exact iff_of_true (explains_error rfl) fun _ h => by cases h
      · exact iff_of_false (fun h => h _ rfl) fun h => h fault rfl
    | ok s =>
      refine iff_of_true ?_ fun _ h => by cases h
      dsimp only
      cases hjson : Json.read s with
      | error fault =>
        cases fault with
        | malformed => exact explains_error rfl
        | number e => exact absurd hjson (h s e hread)
      | ok v =>
        cases v with
        | object fields => exact explains_ok
        | _ => exact explains_error rfl

theorem loadConfig_ne_none (h : disk.isThere (configPath root) = true) :
    loadConfig disk root ≠ .ok none := by
  unfold loadConfig
  dsimp only
  rw [h]
  split
  · contradiction
  · split
    · nofun
    · nofun
    · split <;> nofun

/-! ## The settings -/

/-- All that is to be a text in a document has one: its keys, and the names in its lists. -/
def IsNamed : YamlTree → Prop
  | .mapping entries =>
    YamlTree.entriesFault? entries = none ∧
      Settings.fault? (YamlTree.mapping entries).toValue = none
  | _ => True

theorem ofTree_of_isNamed {tree : YamlTree} (h : IsNamed tree) :
    ∃ s, Settings.ofTree tree = .ok s := by
  cases tree with
  | mapping entries =>
    refine ⟨.ofValue (YamlTree.mapping entries).toValue, ?_⟩
    rw [Settings.ofTree, YamlTree.fault?, h.1, h.2]
    rfl
  | _ => exact ⟨_, rfl⟩

theorem isNamed_of_ofTree {tree : YamlTree} (h : Settings.ofTree tree = .ok s) : IsNamed tree := by
  cases tree with
  | mapping entries =>
    rw [Settings.ofTree] at h
    split at h
    · cases h
    · next hfault => exact Option.or_eq_none_iff.1 hfault
  | _ => trivial

/-- The library finds nothing wrong with settings that are a text but that they break the rules of
the format. -/
def SettingsFit (yaml : YamlLibrary) (disk : Disk) (root : Path) : Prop :=
  ∀ bytes s fault, disk.readBytes (settingsPath root) = .ok bytes → Utf8.read bytes = .ok s →
    yaml.load bytes = .error fault → ∃ message, fault = .malformed message

theorem readDocument_eq_error {failure : Failure} (h : SettingsFit yaml disk root)
    (htext : ∀ fault, disk.readText (settingsPath root) ≠ .error (.undecodable fault))
    (hread : readDocument yaml disk (settingsPath root) = .error failure) :
    (∃ message, failure = .document (.malformed message)) ∨ ∃ e, failure = .file e := by
  obtain hfile | ⟨bytes, hbytes, hdocument⟩ := bind_eq_error_iff.1 hread
  · obtain ⟨e, -, rfl⟩ := mapError_eq_error_iff.1 hfile
    exact .inr ⟨e, rfl⟩
  · obtain ⟨fault, hfault, rfl⟩ := mapError_eq_error_iff.1 hdocument
    cases hdecode : Utf8.read bytes with
    | error e =>
      refine absurd (bind_eq_error_iff.2 (.inr ⟨bytes, hbytes, ?_⟩)) (htext e)
      exact mapError_eq_error_iff.2 ⟨e, hdecode, rfl⟩
    | ok s =>
      obtain ⟨message, rfl⟩ := h bytes s fault (mapError_eq_ok_iff.1 hbytes) hdecode hfault
      exact .inl ⟨message, rfl⟩

/-- The errors of settings that are a text name their file exactly if all that is to be a text in
them has one. -/
theorem explains_loadSettings_iff (h : SettingsFit yaml disk root)
    (htext : ∀ fault, disk.readText (settingsPath root) ≠ .error (.undecodable fault)) :
    Explains (settingsPath root) (loadSettings yaml disk root) ↔
      ∀ d, readDocument yaml disk (settingsPath root) = .ok d → IsNamed (yaml.tree d) := by
  unfold loadSettings
  dsimp only
  cases hthere : disk.isThere (settingsPath root) with
  | false =>
    refine iff_of_true explains_ok fun d hread => ?_
    obtain ⟨bytes, hbytes, -⟩ := bind_eq_ok_iff.1 hread
    obtain ⟨q, hq, hfile⟩ := Disk.exists_file_of_readBytes (mapError_eq_ok_iff.1 hbytes)
    rw [Disk.isThere, (Disk.isFolder_of_file hq hfile).1] at hthere
    cases hthere
  | true =>
    rw [Bool.not_true, if_neg Bool.false_ne_true, readSettings]
    cases hread : readDocument yaml disk (settingsPath root) with
    | error failure =>
      refine iff_of_true ?_ fun _ h => by cases h
      obtain ⟨message, rfl⟩ | ⟨e, rfl⟩ := readDocument_eq_error h htext hread
      · exact explains_error rfl
      · exact explains_error rfl
    | ok d =>
      dsimp only [bind, Except.bind]
      cases hsettings : Settings.ofTree (yaml.tree d) with
      | ok s =>
        exact iff_of_true explains_ok fun d' h => Except.ok.inj h ▸ isNamed_of_ofTree hsettings
      | error e =>
        refine iff_of_false (fun h => h _ rfl) fun hnamed => ?_
        obtain ⟨s, hs⟩ := ofTree_of_isNamed (hnamed d rfl)
        cases hsettings.symm.trans hs

theorem loadSettings_of_read {d : yaml.Document} (hthere : disk.isThere (settingsPath root) = true)
    (hread : readDocument yaml disk (settingsPath root) = .ok d)
    (h : Settings.ofTree (yaml.tree d) = .ok s) : loadSettings yaml disk root = .ok s := by
  simp [loadSettings, readSettings, hthere, hread, h, bind, Except.bind, Except.mapError]

theorem loadSettings_cases (h : loadSettings yaml disk root = .ok s) :
    (disk.isThere (settingsPath root) = false ∧ s = .standard) ∨
      disk.isThere (settingsPath root) = true ∧
        ∃ d, readDocument yaml disk (settingsPath root) = .ok d ∧
          Settings.ofTree (yaml.tree d) = .ok s := by
  unfold loadSettings at h
  dsimp only at h
  split at h
  · next hmissing => exact .inl ⟨by simpa using hmissing, (Except.ok.inj h).symm⟩
  · next hthere =>
    split at h
    · next hread =>
      obtain ⟨d, hd, hsettings⟩ := bind_eq_ok_iff.1 hread
      obtain rfl := Except.ok.inj h
      exact .inr ⟨by simpa using hthere, d, hd, mapError_eq_ok_iff.1 hsettings⟩
    all_goals cases h

theorem isNormal_of_loadSettings (h : loadSettings yaml disk root = .ok s) : s.IsNormal := by
  obtain ⟨-, rfl⟩ | ⟨-, d, -, hsettings⟩ := loadSettings_cases h
  · exact @Settings.isNormal_ofValue .null rfl
  · exact Settings.isNormal_ofTree hsettings

/-! ## Both files -/

theorem load_eq_ok_iff {loaded : Loaded} :
    load yaml disk root = .ok loaded ↔
      ∃ config s, loadConfig disk root = .ok config ∧ loadSettings yaml disk root = .ok s ∧
        loaded = ⟨contextOf config s, s, config.isSome⟩ := by
  rw [load]
  simp only [bind_eq_ok_iff, pure_eq_ok_iff]
  constructor
  · rintro ⟨config, hconfig, s, hs, rfl⟩
    exact ⟨config, s, hconfig, hs, rfl⟩
  · rintro ⟨config, s, hconfig, hs, rfl⟩
    exact ⟨config, hconfig, s, hs, rfl⟩

end Stencil.Project
