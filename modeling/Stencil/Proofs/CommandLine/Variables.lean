import Stencil.CommandLine
import Stencil.Proofs.Context
import Stencil.Proofs.Project.Edits
import Stencil.Proofs.Project.Loading
import Stencil.Proofs.Rendering.Paths
import Stencil.Proofs.Scope.Turns

/-!
# Variables that are set and used

A variable that is set under a name without a newline behind it is found by templates under its
path: by references and by conditions.
-/

namespace Stencil.CommandLine

open Stencil.Outcome Project

variable {yaml : YamlLibrary} {disk : Disk} {root : Path} {key : Text} {value : Value}
  {context custom : Fields}

/-! ## Names and paths -/

theorem isWord_of_isAsciiLetter {c : CodePoint} (h : Text.isAsciiLetter c = true) :
    Text.isWord c = true := by
  have hupper : (0x41, 0x5A) ∈ alphanumericRanges := .tail _ (.head _)
  have hlower : (0x61, 0x7A) ∈ alphanumericRanges := .tail _ (.tail _ (.head _))
  rw [Text.isWord, Bool.or_eq_true, inRanges, List.any_eq_true]
  right
  obtain h | h := Bool.or_eq_true _ _ ▸ h
  · exact ⟨_, hlower, h⟩
  · exact ⟨_, hupper, h⟩

theorem isPathChar_of_isVariableName (h : isVariableName key = true)
    (hline : key.getLast? ≠ some (chr '\n')) : key ≠ [] ∧ ∀ c ∈ key, isPathChar c = true := by
  have hword : ∀ c, (Text.isWord c || c == '-') = true → isPathChar c = true := by
    intro c hc
    rw [Bool.or_eq_true] at hc
    simp only [isPathChar, Bool.or_eq_true]
    tauto
  cases key with
  | nil => cases h
  | cons c s =>
    have hend : (if s.getLast? == some (chr '\n') then s.dropLast else s) = s := by
      refine if_neg fun hs => hline ?_
      rw [List.getLast?_cons, beq_iff_eq.1 hs]
      rfl
    rw [isVariableName, hend, Bool.and_eq_true, List.all_eq_true] at h
    refine ⟨List.cons_ne_nil c s, List.forall_mem_cons.2 ⟨?_, fun d hd => hword d (h.2 d hd)⟩⟩
    obtain hletter | hmark := Bool.or_eq_true _ _ ▸ h.1
    · exact hword c (by rw [isWord_of_isAsciiLetter hletter]; rfl)
    · exact hword c (by rw [Text.isWord, hmark]; rfl)

theorem splitOn_variablePath (h : ∀ c ∈ key, isPathChar c = true) :
    Text.splitOn '.' (variablePath key) = [customName, key] := by
  have hcustom : chr '.' ∉ customName := by decide
  have hkey : chr '.' ∉ key := fun hmem => by
    have hdot : isPathChar '.' = false := by decide +kernel
    rw [h '.' hmem] at hdot
    cases hdot
  have hpath : variablePath key = customName ++ chr '.' :: key := by simp [variablePath]
  rw [hpath, Text.splitOn_append hcustom, Text.splitOn_eq_singleton hkey]

theorem isPath_variablePath (hne : key ≠ []) (h : ∀ c ∈ key, isPathChar c = true) :
    isPath (variablePath key) = true := by
  have hstart : (variablePath key).head?.any isPathStart = true := rfl
  have hcustom : (!customName.isEmpty && customName.all isPathChar) = true := by decide +kernel
  rw [isPath, hstart, splitOn_variablePath h, Bool.true_and, List.all_cons, hcustom, Bool.true_and,
    List.all_cons, List.all_nil, Bool.and_true, Bool.and_eq_true, List.all_eq_true]
  exact ⟨by simpa using hne, h⟩

theorem lookup_variablePath (hne : key ≠ []) (h : ∀ c ∈ key, isPathChar c = true)
    (hcontext : Fields.get? customName context = some (.object custom))
    (hvalue : Fields.get? key custom = some value) :
    (Scope.base context).lookup (variablePath key) = .ok (some value) := by
  have hpath : Text.splitOn '.' (Text.trim (variablePath key)) = [customName, key] := by
    rw [(IsPath.tight (isPath_variablePath hne h)).trim_eq, splitOn_variablePath h]
  have hcustom : (Scope.base context).member? customName = some (.object custom) := by
    rw [Scope.member?, Scope.get?, hcontext]
  rw [Scope.lookup_of_member? hpath (by decide) hcustom,
    Value.follow_cons hne (Value.child_key hvalue)]
  rfl

/-! ## Variables in templates -/

/-- A path leads to a value, and templates see it there: references and conditions. -/
structure IsUsable (context : Fields) (path : Text) (value : Value) : Prop where
  leads : (Scope.base context).lookup path = .ok (some value)
  isPath : isPath path = true
  isCondition : Condition.read path = .ok (.single (.truth path false))
  reference : render (openBraces ++ path ++ closeBraces) context =
    .ok ⟨Text.squeezeBlankLines value.toText, true, 1, [], []⟩
  condition : ∀ body ns r, Node.parse body = .ok ns →
    (if value.truthy then renderNodes ns (.base context) else .ok .empty) = .ok r →
    render ((Token.opening .when (' ' :: path)).source ++ body ++ (Token.closing .when []).source)
        context =
      .ok ⟨Text.squeezeBlankLines r.text, true, 1 + r.directives, r.warnings.eraseDups, []⟩

theorem isUsable_of_lookup {path : Text} (hpath : Stencil.isPath path = true)
    (hlookup : (Scope.base context).lookup path = .ok (some value))
    (hvalue : value.textFault? = none) : IsUsable context path value where
  leads := hlookup
  isPath := hpath
  isCondition := Condition.read_path hpath
  reference := render_path hpath hlookup hvalue
  condition := fun _ _ _ hbody hr => render_when_path hpath hlookup hbody hr

/-- A variable that is set in a project that loads can be used in its templates, whatever its value
is, unless its name ends in a newline. A project without a folder for its settings is given one
first; if that fails, nothing is stored. -/
theorem variable_usable {loaded : Loaded} (hyaml : yaml.FillsMappings) (hroot : Path.up ∉ root)
    (hload : load yaml disk root = .ok loaded) (hnames : HasPlainNames yaml disk root)
    (hname : isVariableName key = true) (hline : key.getLast? ≠ some (chr '\n'))
    (hdistinct : value.keysDistinct = true) (htext : value.textFault? = none)
    (hback : ∀ d, documentToSave yaml disk root (loaded.settings.setVariable key value) = .ok d →
      yaml.ReadsBack d) :
    (∃ e, withFolder disk root = .error e ∧
      Project.setVariable yaml disk root key value = (disk, .error (.other e))) ∨
    ∃ after s loaded, Project.setVariable yaml disk root key value = (after, .ok s) ∧
      load yaml after root = .ok loaded ∧
      IsUsable loaded.context (variablePath key) value := by
  obtain ⟨config, settings, hconfig, hsettings, rfl⟩ := load_eq_ok_iff.1 hload
  cases hmade : withFolder disk root with
  | error e =>
    exact .inl ⟨e, rfl, by simp only [Project.setVariable, hsettings, saveSettings, hmade]⟩
  | ok made =>
    right
    -- A folder that is made is empty, so the two files are met as they were loaded.
    have hstill : disk.isThere (settingsPath root) = false →
        made.isThere (settingsPath root) = false := by
      have hfile : text "templates.yaml" ≠ Path.up := by decide
      obtain rfl | ⟨-, hmissing⟩ := isThere_withFolder hroot hfile hmade
      · exact id
      · exact fun _ => hmissing
    obtain ⟨d, entries, q, hopened, hfits⟩ := exists_opened hyaml hnames hsettings hmade hstill
    obtain ⟨after, hset, hstored, hkept⟩ :=
      setVariable_stored hsettings hyaml hmade hopened hfits hdistinct hback
    rw [loadConfig_withFolder hroot hmade, hconfig] at hkept
    have hloaded := load_eq_ok_iff.2 ⟨config, _, hkept, hstored, rfl⟩
    refine ⟨after, _, _, hset, hloaded, ?_⟩
    obtain ⟨hne, hchars⟩ := isPathChar_of_isVariableName hname hline
    have hnodup := (Value.keysDistinct_object.1 (isNormal_of_loadSettings hstored).custom).1
    have hfound : Fields.get? key (settings.setVariable key value).custom = some value := by
      rw [Settings.setVariable, Fields.get?_insert, if_pos rfl]
    have hlookup := lookup_variablePath hne hchars (@get?_contextOf config _ hnodup) hfound
    exact isUsable_of_lookup (isPath_variablePath hne hchars) hlookup htext

def shop : Disk where
  files := [(configPath [], Utf8.ofText (text "\x7b\x7d")),
    (settingsPath [], Utf8.ofText (text "extensions: []\nexclude: []\ncustom: \x7ba: 1\x7d\n"))]
  folders := []

theorem hasPlainNames_shop : HasPlainNames plainLibrary shop [] := by
  have hread : (readDocument plainLibrary shop (settingsPath [])).map plainLibrary.tree =
      .ok (.mapping [(.text Settings.extensionsName, .list []),
        (.text Settings.excludeName, .list []),
        (.text customName, .mapping [(.text (text "a"), .int 1)])]) := by
    decide +kernel
  obtain ⟨d, hread, htree⟩ := map_eq_ok_iff.1 hread
  intro d' hread'
  obtain rfl := Except.ok.inj (hread.symm.trans hread')
  rw [htree]
  decide

theorem variable_usable_shop :
    isVariableName (text "aé1-") = true ∧
    ∃ after s loaded,
      Project.setVariable plainLibrary shop [] (text "aé1-") (.str (text "x")) = (after, .ok s) ∧
      load plainLibrary after [] = .ok loaded ∧
      IsUsable loaded.context (variablePath (text "aé1-")) (.str (text "x")) := by
  have hname : isVariableName (text "aé1-") = true := by decide +kernel
  have hline : (text "aé1-").getLast? ≠ some (chr '\n') := by decide +kernel
  have hroot : Path.up ∉ ([] : Path) := nofun
  have hload : (load plainLibrary shop []).map (·.settings) =
      .ok ⟨⟨[], []⟩, [(text "a", .int 1)]⟩ := by decide +kernel
  obtain ⟨loaded, hloaded, hsettings⟩ := map_eq_ok_iff.1 hload
  have hwritten : ∀ d ∈ (documentToSave plainLibrary shop []
      (Settings.setVariable ⟨⟨[], []⟩, [(text "a", .int 1)]⟩ (text "aé1-")
        (.str (text "x")))).toOption, plainLibrary.ReadsBack d := by
    decide +kernel
  have hback : ∀ d, documentToSave plainLibrary shop []
      (loaded.settings.setVariable (text "aé1-") (.str (text "x"))) = .ok d →
      plainLibrary.ReadsBack d := by
    intro d hd
    refine hwritten d ?_
    rw [← hsettings, hd]
    rfl
  obtain ⟨e, hmade, -⟩ | husable := variable_usable YamlLibrary.fillsMappings_ofTrees hroot hloaded
    hasPlainNames_shop hname hline rfl rfl hback
  · cases hmade
  · exact ⟨hname, husable⟩

/-- A name with a newline behind it is accepted and stored, but no path leads to the value. -/
theorem variable_newline :
    isVariableName (text "a\n") = true ∧
    ∃ after s loaded, Project.setVariable Yaml.library shop [] (text "a\n") (.int 5) =
        (after, .ok s) ∧
      load Yaml.library after [] = .ok loaded ∧
      (Scope.base loaded.context).lookup (variablePath (text "a\n")) = .ok (some (.int 1)) := by
  have hset : (Project.setVariable Yaml.library shop [] (text "a\n") (.int 5)).2.map (·.custom) =
      .ok [(text "a", .int 1), (text "a\n", .int 5)] := by decide +kernel
  have hload : (load Yaml.library
        (Project.setVariable Yaml.library shop [] (text "a\n") (.int 5)).1 []).map (fun loaded =>
          (Scope.base loaded.context).lookup (variablePath (text "a\n"))) =
      .ok (.ok (some (.int 1))) := by
    decide +kernel
  obtain ⟨s, hs, -⟩ := map_eq_ok_iff.1 hset
  obtain ⟨loaded, hloaded, hlookup⟩ := map_eq_ok_iff.1 hload
  generalize hafter : Project.setVariable Yaml.library shop [] (text "a\n") (.int 5) = result
    at hs hloaded
  obtain ⟨after, answer⟩ := result
  obtain rfl : answer = .ok s := hs
  exact ⟨by decide +kernel, after, s, loaded, rfl, hloaded, hlookup⟩

end Stencil.CommandLine
