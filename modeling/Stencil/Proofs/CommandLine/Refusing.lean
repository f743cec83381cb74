import Stencil.Libraries
import Stencil.Proofs.Project.Loading

/-!
# Commands on projects that cannot be loaded

A command that needs a project shows why it cannot be loaded, if the console takes the message, and
leaves the disk as it is.
-/

namespace Stencil.CommandLine

open Project

variable {libs : Libraries} {around : Surroundings} {disk : Disk} {root p : Path}
  {project : Option Text} {e : Error}

theorem ending_refused_iff {console : Console} (h : e.Names p) :
    (refused console disk (.project e)).printed.disk = disk ∧
    ((refused console disk (.project e)).printed.ending = .unsuccessful ↔
      ∃ s bytes, console.markup (errorMarkup e.message) = .ok s ∧
        Utf8.encode (shown [s]) = .ok bytes) := by
  have hcomplaint : refused console disk (.project e) = complaint console disk e.message := by
    cases e with
    | other failure => cases h
    | _ => rfl
  rw [hcomplaint, complaint]
  cases console.markup (errorMarkup e.message) with
  | error fault => simp [Outcome.printed, Utf8.encode, Utf8.halvesFrom?]
  | ok s =>
    cases hbytes : Utf8.encode (shown [s]) with
    | error halves => simp [Outcome.printed, hbytes]
    | ok bytes => simp [Outcome.printed, hbytes]

theorem loadProject_error (hroot : projectRoot around disk project = .ok root)
    (h : load libs.yaml disk root = .error e) :
    loadProject libs.yaml around disk project = .error (.project e) := by
  rw [loadProject, hroot]
  dsimp only [bind, Except.bind]
  rw [h]
  rfl

/-- What is given to set a variable is in order: its name, and a value that can be read unless the
variable is removed. -/
structure IsAssignment (yaml : YamlLibrary) (key : Text) (value : Option Text) (unset : Bool) :
    Prop where
  name : isVariableName key = true
  value : unset = true ∨ ∃ raw v, value = some raw ∧ Settings.variableValue yaml raw = .ok v

theorem runSetVariable_refused {key : Text} {value : Option Text} {unset : Bool}
    (hroot : projectRoot around disk project = .ok root)
    (h : IsAssignment libs.yaml key value unset)
    (he : loadSettings libs.yaml disk root = .error e) :
    runSetVariable libs around disk key value project unset =
      refused libs.console disk (.project e) := by
  have hunset : runUnset libs disk root key = refused libs.console disk (.project e) := by
    simp only [runUnset, removeVariable, he]
  unfold runSetVariable
  rw [h.name, Bool.not_true, if_neg Bool.false_ne_true]
  obtain rfl | ⟨raw, v, rfl, hv⟩ := h.value
  · cases value <;> simp only [hroot, hunset, if_true]
  · cases unset with
    | true => simp only [hroot, hunset, if_true]
    | false =>
      have hrun : runSet libs disk root key raw = refused libs.console disk (.project e) := by
        simp only [runSet, hv, Project.setVariable, he]
      simp only [hroot, Option.getD_some, hrun, Bool.false_eq_true, if_false]

/-- The commands that load a project are refused if it cannot be loaded. -/
structure Refused (libs : Libraries) (around : Surroundings) (disk : Disk) (project : Option Text)
    (e : Error) : Prop where
  render : ∀ folder dryRun json, run libs around disk (.render project folder dryRun json) =
    (refused libs.console disk (.project e)).printed
  validate : ∀ json, run libs around disk (.validate [] project json) =
    (refused libs.console disk (.project e)).printed
  context : run libs around disk (.context project) =
    (refused libs.console disk (.project e)).printed

theorem refused_of_load (hroot : projectRoot around disk project = .ok root)
    (h : load libs.yaml disk root = .error e) : Refused libs around disk project e := by
  have hload := loadProject_error hroot h
  refine ⟨fun folder dryRun json => ?_, fun json => ?_, ?_⟩
  · rw [run, outcomeOf, runRender, hload]
  · rw [run, outcomeOf, runValidate, hload]
    rfl
  · rw [run, outcomeOf, runContext, hload]

/-- The two files of a project, whatever their bytes are: the errors of its configuration name the
file exactly if it can be decoded, and those of settings that are a text exactly if all that is to
be a text in them has one. Every command that meets such an error prints it and changes no file. It
is unsuccessful then, unless the message is no markup that the console takes, or cannot be
printed. -/
theorem load_explains (libs : Libraries) (disk : Disk) (root : Path)
    (hnumbers : NumbersFit disk root) (hsettings : SettingsFit libs.yaml disk root) :
    (disk.isThere (configPath root) = true → loadConfig disk root ≠ .ok none) ∧
    (Explains (configPath root) (loadConfig disk root) ↔
      ∀ fault, disk.readText (configPath root) ≠ .error (.undecodable fault)) ∧
    ((∀ fault, disk.readText (settingsPath root) ≠ .error (.undecodable fault)) →
      (Explains (settingsPath root) (loadSettings libs.yaml disk root) ↔
        ∀ d, readDocument libs.yaml disk (settingsPath root) = .ok d →
          IsNamed (libs.yaml.tree d))) ∧
    ∀ around project p e, projectRoot around disk project = .ok root → e.Names p →
      (load libs.yaml disk root = .error e → Refused libs around disk project e) ∧
      (loadSettings libs.yaml disk root = .error e → ∀ key value unset,
        IsAssignment libs.yaml key value unset →
        run libs around disk (.setVariable key value project unset) =
          (refused libs.console disk (.project e)).printed) ∧
      (refused libs.console disk (.project e)).printed.disk = disk ∧
      ((refused libs.console disk (.project e)).printed.ending = .unsuccessful ↔
        ∃ s bytes, libs.console.markup (errorMarkup e.message) = .ok s ∧
          Utf8.encode (shown [s]) = .ok bytes) := by
  refine ⟨loadConfig_ne_none, explains_loadConfig_iff hnumbers, explains_loadSettings_iff hsettings,
    ?_⟩
  intro around project p e hroot hnames
  refine ⟨refused_of_load hroot, fun he key value unset h => ?_, ending_refused_iff hnames⟩
  rw [run, outcomeOf, runSetVariable_refused hroot h he]

def unfinished : Disk where
  files := [(configPath [], Utf8.ofText (text "[")), (settingsPath [], Utf8.ofText (text "a: ["))]
  folders := []

theorem numbersFit_unfinished : NumbersFit unfinished [] := by
  have hread : unfinished.readText (configPath []) = .ok (text "[") := by decide +kernel
  have hjson : Json.read (text "[") = .error .malformed := by decide +kernel
  intro s e hs hnumber
  rw [hread] at hs
  obtain rfl := Except.ok.inj hs
  rw [hjson] at hnumber
  cases hnumber

theorem load_unfinished :
    (Yaml.library.load (Utf8.ofText (text "a: ["))).map Yaml.library.tree =
      .error (.malformed (text "Malformed document")) := by
  decide +kernel

theorem settingsFit_unfinished : SettingsFit Yaml.library unfinished [] := by
  have hread : unfinished.readBytes (settingsPath []) = .ok (Utf8.ofText (text "a: [")) := by
    decide +kernel
  intro bytes s fault hbytes _ hfault
  obtain rfl := Except.ok.inj (hread.symm.trans hbytes)
  exact ⟨_, Except.error.inj (hfault.symm.trans (Outcome.map_eq_error_iff.1 load_unfinished))⟩

theorem load_explains_unfinished :
    let configError := Error.unreadableConfig (configPath []) Project.noJson
    let settingsError := Error.unreadableSettings (settingsPath []) (text "Malformed document")
    NumbersFit unfinished [] ∧ SettingsFit Yaml.library unfinished [] ∧
    Explains (configPath []) (loadConfig unfinished []) ∧
    Explains (settingsPath []) (loadSettings Yaml.library unfinished []) ∧
    Refused .standard ⟨[], none, none⟩ unfinished (some (text "/")) configError ∧
    run .standard ⟨[], none, none⟩ unfinished
        (.setVariable (text "a") (some (text "1")) (some (text "/")) false) =
      (refused Libraries.standard.console unfinished (.project settingsError)).printed ∧
    (refused Libraries.standard.console unfinished (.project settingsError)).printed.ending =
      .unsuccessful := by
  intro configError settingsError
  have hconfig : ∀ fault, unfinished.readText (configPath []) ≠ .error (.undecodable fault) := by
    have hread : unfinished.readText (configPath []) = .ok (text "[") := by decide +kernel
    intro fault hfault
    cases hread.symm.trans hfault
  have hsettings : ∀ fault,
      unfinished.readText (settingsPath []) ≠ .error (.undecodable fault) := by
    have hread : unfinished.readText (settingsPath []) = .ok (text "a: [") := by decide +kernel
    intro fault hfault
    cases hread.symm.trans hfault
  have hnamed : ∀ d, readDocument Yaml.library unfinished (settingsPath []) = .ok d →
      IsNamed (Yaml.library.tree d) := by
    have hread : (readDocument Yaml.library unfinished (settingsPath [])).map Yaml.library.tree =
        .error (.document (.malformed (text "Malformed document"))) := by decide +kernel
    intro d hd
    cases (Outcome.map_eq_error_iff.1 hread).symm.trans hd
  obtain ⟨-, hofConfig, hofSettings, hcommands⟩ :=
    load_explains .standard unfinished [] numbersFit_unfinished settingsFit_unfinished
  have hfailedConfig : loadConfig unfinished [] = .error configError := by decide +kernel
  have hfailedSettings : loadSettings Yaml.library unfinished [] = .error settingsError := by
    decide +kernel
  have hload : load Yaml.library unfinished [] = .error configError := by
    rw [load, hfailedConfig]
    rfl
  have hprinted : (refused Libraries.standard.console unfinished
      (.project settingsError)).printed.ending = .unsuccessful := by decide +kernel
  have hroot : projectRoot ⟨[], none, none⟩ unfinished (some (text "/")) = .ok [] := rfl
  have hone : IsAssignment Yaml.library (text "a") (some (text "1")) false :=
    ⟨by decide +kernel, .inr ⟨_, .int 1, rfl, by decide +kernel⟩⟩
  have hloading := (hcommands _ _ (configPath []) configError hroot rfl).1 hload
  obtain ⟨-, hsetting, -⟩ := hcommands _ _ (settingsPath []) settingsError hroot rfl
  exact ⟨numbersFit_unfinished, settingsFit_unfinished, hofConfig.2 hconfig,
    (hofSettings hsettings).2 hnamed, hloading, hsetting hfailedSettings _ _ _ hone,
    hprinted⟩

def undecodable : Disk where
  files := [(configPath [], [0xFF]), (settingsPath [], [0xFF])]
  folders := []

/-- The configuration and the settings that are no texts end commands without an explanation. -/
theorem load_undecodable :
    loadConfig undecodable [] = .error (.other (.undecodable ⟨0, 1, 0xFF, .invalidStart⟩)) ∧
    (run .standard ⟨[], none, none⟩ undecodable (.render none none false false)).ending =
      .broken (.undecodable ⟨0, 1, 0xFF, .invalidStart⟩) ∧
    loadSettings Yaml.library undecodable [] =
      .error (.other (.document (.undecodable ⟨0, 1, 0xFF, .invalidStart⟩))) ∧
    (run .standard ⟨[], none, none⟩ undecodable
        (.setVariable (text "a") (some (text "1")) none false)).ending =
      .broken (.document (.undecodable ⟨0, 1, 0xFF, .invalidStart⟩)) := by
  refine ⟨by decide +kernel, by decide +kernel, by decide +kernel, by decide +kernel⟩

end Stencil.CommandLine
