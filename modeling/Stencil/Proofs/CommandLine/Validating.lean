import Stencil.Libraries
import Stencil.Proofs.Folder.Places
import Stencil.Proofs.Folder.Reading

/-!
# Checking files and folders

The check of a file finds what the check of a folder around it finds for the file, as long as the
file is a text. A check ends without an explanation exactly if one of its paths leads to a file that
is none.
-/

namespace Stencil.CommandLine

open Stencil.Outcome

variable {libs : Libraries} {around : Surroundings} {disk : Disk} {selection : Selection}
  {project : Option Text} {json : Bool} {paths : List Text} {d name s : Text} {errors : List Text}
  {file top : Path}

/-! ## Findings -/

namespace Findings

variable {f : Findings} {problems found : List (Text × List Text)}

theorem insert_of_not_mem (h : name ∉ problems.map Prod.fst) :
    insert name errors problems = problems ++ [(name, errors)] := by
  induction problems with
  | nil => rfl
  | cons p problems ih =>
    obtain ⟨other, old⟩ := p
    obtain ⟨hother, hrest⟩ := not_or.1 (List.mem_cons.not.1 h)
    rw [insert, if_neg (by simpa using Ne.symm hother), ih hrest, List.cons_append]

theorem foldl_add (h : (f.problems.map Prod.fst ++ found.map Prod.fst).Nodup) :
    found.foldl (fun f e => f.add e.1 e.2) f = ⟨f.problems ++ found, f.checked⟩ := by
  induction found generalizing f with
  | nil => rw [List.append_nil, List.foldl_nil]
  | cons e found ih =>
    have hnew : e.1 ∉ f.problems.map Prod.fst := fun hmem =>
      (List.nodup_append.1 h).2.2 _ hmem _ List.mem_cons_self rfl
    have hadd : f.add e.1 e.2 = ⟨f.problems ++ [e], f.checked⟩ := by
      rw [add, insert_of_not_mem hnew]
    rw [List.foldl_cons, hadd, ih, List.append_assoc, List.singleton_append]
    simpa using h

def outcome (disk : Disk) (json : Bool) (f : Findings) : Outcome :=
  ⟨disk, if json then jsonOutput (.object f.toFields) else shown f.lines, verdict f.isClean⟩

theorem exitCode_outcome (f : Findings) :
    (f.outcome disk json).ending.exitCode = if f.problems = [] then 0 else 1 := by
  rw [outcome, isClean]
  cases f.problems <;> rfl

end Findings

theorem runValidate_of_findings {f : Findings}
    (h : checkPath around disk .standard .empty s = .ok f) :
    runValidate libs around disk [s] project json = f.outcome disk json := by
  rw [runValidate, if_neg (by simp), checkPaths, List.foldlM_cons, h]
  rfl

/-! ## What is found in a folder and in a file -/

/-- The files with errors, by the names that are made for them. -/
def problemsIn (disk : Disk) (top : Path) (written : Path → Text) (files : List Path) :
    List (Text × List Text) :=
  (files.filter fun file => !(fileErrors disk (top ++ file)).isEmpty).map fun file =>
    (written file, fileErrors disk (top ++ file))

theorem filter_problemsIn {written : Path → Text} {files : List Path}
    (hnodup : (files.map written).Nodup) (hfile : file ∈ files) :
    (problemsIn disk top written files).filter (fun e => e.1 == written file) =
      if (fileErrors disk (top ++ file)).isEmpty then []
      else [(written file, fileErrors disk (top ++ file))] := by
  have hnone : ∀ files, written file ∉ List.map written files →
      (problemsIn disk top written files).filter (fun e => e.1 == written file) = [] := by
    intro files hnot
    rw [List.filter_eq_nil_iff]
    intro e he hname
    obtain ⟨other, hother, rfl⟩ := List.mem_map.1 he
    exact hnot (List.mem_map.2 ⟨other, (List.mem_filter.1 hother).1, eq_of_beq hname⟩)
  induction files with
  | nil => cases hfile
  | cons first files ih =>
    obtain ⟨hfirst, hrest⟩ := List.nodup_cons.1 hnodup
    have hcons : problemsIn disk top written (first :: files) =
        (if (fileErrors disk (top ++ first)).isEmpty then []
          else [(written first, fileErrors disk (top ++ first))]) ++
          problemsIn disk top written files := by
      rw [problemsIn, List.filter_cons]
      cases (fileErrors disk (top ++ first)).isEmpty <;> rfl
    rw [hcons, List.filter_append]
    rcases List.mem_cons.1 hfile with rfl | hfile
    · rw [hnone files hfirst, List.append_nil]
      split <;> simp
    · have hne : written first ≠ written file := fun heq =>
        hfirst (heq ▸ List.mem_map_of_mem hfile)
      rw [ih hrest hfile]
      split <;> simp [hne]

theorem folderErrors_eq {folder : Path} (h : disk.follow [] folder = .ok top) :
    folderErrors disk folder selection =
      problemsIn disk top Path.relativeText (selection.find disk folder) := by
  unfold folderErrors problemsIn
  rw [h]
  generalize selection.find disk folder = files
  induction files with
  | nil => rfl
  | cons file files ih =>
    simp only [List.filterMap_cons, List.filter_cons]
    cases (fileErrors disk (top ++ file)).isEmpty with
    | true => exact ih
    | false => exact congrArg (_ :: ·) ih

theorem isName_of_mem_find {folder : Path} (hdisk : disk.IsProper)
    (h : disk.follow [] folder = .ok top) (hfile : file ∈ selection.find disk folder) :
    file ≠ [] ∧ ∀ name ∈ file, Path.IsName name := by
  obtain ⟨hmem, hne, -⟩ := (Selection.mem_find_iff h).1 hfile
  exact ⟨hne, fun name hname => (hdisk.named _ hmem name (List.mem_append_right _ hname)).1⟩

theorem nodup_below {folder : Path} (hdisk : disk.IsProper)
    (h : disk.follow [] folder = .ok top) :
    ((selection.find disk folder).map (Path.below d)).Nodup := by
  refine List.Nodup.map_on ?_ (Selection.nodup_find hdisk.toIsTree h)
  intro file hfile file' hfile' hbelow
  obtain ⟨hne, hnames⟩ := isName_of_mem_find hdisk h hfile
  obtain ⟨hne', hnames'⟩ := isName_of_mem_find hdisk h hfile'
  exact Path.below_inj hne hne' hnames hnames' hbelow

theorem checkPath_folder (hdisk : disk.IsProper)
    (hd : disk.isFolder (Path.seenFrom around.here d) = true)
    (htop : disk.follow [] (Path.seenFrom around.here d) = .ok top) :
    checkPath around disk selection .empty d =
      .ok ⟨problemsIn disk top (Path.below d)
          (selection.find disk (Path.seenFrom around.here d)),
        (selection.find disk (Path.seenFrom around.here d)).length⟩ := by
  -- Errors under one name would be put together, but the names that are written differ.
  have hnodup := @nodup_below disk selection d top _ hdisk htop
  have hnames : ∀ file ∈ selection.find disk (Path.seenFrom around.here d),
      Path.names (Path.relativeText file) = file := fun file hfile =>
    Path.names_relativeText (isName_of_mem_find hdisk htop hfile).2
  unfold checkPath
  rw [if_pos hd, folderErrors_eq htop]
  generalize selection.find disk (Path.seenFrom around.here d) = files at hnodup hnames
  have hrenamed : (problemsIn disk top Path.relativeText files).map
        (fun e => (Path.below d (Path.names e.1), e.2)) =
      problemsIn disk top (Path.below d) files := by
    rw [problemsIn, problemsIn, List.map_map]
    refine List.map_congr_left fun file hfile => ?_
    rw [Function.comp, hnames file (List.mem_filter.1 hfile).1]
  have hdistinct : ((problemsIn disk top (Path.below d) files).map Prod.fst).Nodup := by
    rw [problemsIn, List.map_map]
    exact hnodup.sublist (List.filter_sublist.map _)
  have hfold := @Findings.foldl_add .empty (problemsIn disk top (Path.below d) files) hdistinct
  rw [← hrenamed, List.foldl_map, hrenamed] at hfold
  refine congrArg Except.ok ((congrArg (Findings.count · files.length) hfold).trans ?_)
  simp [Findings.count, Findings.empty]

theorem checkPath_file {q : Path} (hq : disk.follow [] (Path.seenFrom around.here s) = .ok q)
    (hfile : disk.isFileAt q = true)
    (htext : ∀ fault, disk.readText (Path.seenFrom around.here s) ≠ .error (.undecodable fault)) :
    checkPath around disk selection .empty s =
      .ok ⟨if (fileErrors disk q).isEmpty then [] else [(Path.below s [], fileErrors disk q)],
        1⟩ := by
  obtain ⟨hisFile, hisFolder⟩ := Disk.isFolder_of_file hq hfile
  have hread := Disk.readText_of_file hq hfile
  obtain ⟨content, hcontent⟩ | ⟨fault, hfault⟩ := Disk.textOf_of_file hfile
  · have herrors : fileErrors disk q = (templateErrors content).map (·.message) := by
      rw [fileErrors, hcontent]
    unfold checkPath
    rw [if_neg (by simp [hisFolder]), if_pos hisFile, hread, hcontent, herrors]
    refine congrArg Except.ok ?_
    generalize (templateErrors content).map (·.message) = errors
    cases errors <;> rfl
  · exact absurd (hread.trans hfault) (htext fault)

/-! ## Checks that break off -/

theorem checkPath_eq_error_iff {f : Findings} :
    (∃ failure, checkPath around disk selection f s = .error failure) ↔
      ∃ fault, disk.readText (Path.seenFrom around.here s) = .error (.undecodable fault) := by
  constructor
  · rintro ⟨failure, h⟩
    unfold checkPath at h
    dsimp only at h
    split at h
    · cases h
    · split at h
      · next hisFile =>
        obtain ⟨q, hq, hfile⟩ := Disk.exists_of_isFile hisFile
        rw [Disk.readText_of_file hq hfile] at h ⊢
        obtain ⟨content, hcontent⟩ | hfault := Disk.textOf_of_file hfile
        · rw [hcontent] at h
          cases h
        · exact hfault
      · cases h
  · rintro ⟨fault, h⟩
    obtain ⟨q, hq, hfile⟩ := Disk.exists_of_undecodable h
    obtain ⟨hisFile, hisFolder⟩ := Disk.isFolder_of_file hq hfile
    refine ⟨.undecodable fault, ?_⟩
    unfold checkPath
    rw [if_neg (by simp [hisFolder]), if_pos hisFile, h]
    rfl

theorem foldlM_checkPath_eq_error_iff {f : Findings} :
    (∃ failure, paths.foldlM (checkPath around disk selection) f = .error failure) ↔
      ∃ s ∈ paths, ∃ fault,
        disk.readText (Path.seenFrom around.here s) = .error (.undecodable fault) := by
  induction paths generalizing f with
  | nil => simp [pure, Except.pure]
  | cons s paths ih =>
    rw [List.foldlM_cons, List.exists_mem_cons_iff, ← @checkPath_eq_error_iff _ _ selection s f]
    cases h : checkPath around disk selection f s with
    | error failure => simp [bind, Except.bind]
    | ok f' => simpa [bind, Except.bind] using ih

/-- A check of paths ends without an explanation exactly if one of them leads to a file that is no
text. -/
theorem runValidate_breaks_iff (hpaths : paths ≠ []) :
    (∃ failure, (runValidate libs around disk paths project json).ending = .broken failure) ↔
      ∃ s ∈ paths, ∃ fault,
        disk.readText (Path.seenFrom around.here s) = .error (.undecodable fault) := by
  rw [← @foldlM_checkPath_eq_error_iff around disk .standard paths .empty, runValidate,
    if_neg (by simpa using hpaths), checkPaths]
  cases paths.foldlM (checkPath around disk .standard) .empty with
  | error failure => simp
  | ok f =>
    have hverdict : ∀ good failure, verdict good ≠ .broken failure := by
      intro good failure
      cases good <;> nofun
    simp [hverdict]

/-- The check of a file that is a text reports what the check of its folder reports for it. No
check breaks off but for files that are no texts. -/
theorem validate_agree (libs : Libraries) (around : Surroundings) (disk : Disk)
    (hdisk : disk.IsProper) (project : Option Text) (json : Bool) :
    (∀ d file s, disk.isFolder (Path.seenFrom around.here d) = true →
      file ∈ Selection.standard.find disk (Path.seenFrom around.here d) → Path.Joins d file s →
      (∀ fault, disk.readText (Path.seenFrom around.here s) ≠ .error (.undecodable fault)) →
      ∃ ofFile ofFolder : Findings,
        runValidate libs around disk [s] project json = ofFile.outcome disk json ∧
        runValidate libs around disk [d] project json = ofFolder.outcome disk json ∧
        ofFile.problems = ofFolder.problems.filter (fun e => e.1 == Path.below d file) ∧
        ((runValidate libs around disk [s] project json).ending.exitCode = 1 ↔
          ofFile.problems ≠ [])) ∧
    ∀ paths, paths ≠ [] →
      ((∃ failure, (runValidate libs around disk paths project json).ending = .broken failure) ↔
        ∃ s ∈ paths, ∃ fault,
          disk.readText (Path.seenFrom around.here s) = .error (.undecodable fault)) := by
  refine ⟨?_, fun paths => runValidate_breaks_iff⟩
  intro d file s hd hfile hs htext
  obtain ⟨top, htop, -⟩ := Disk.exists_of_isFolder hd
  obtain ⟨hmem, -, -⟩ := (Selection.mem_find_iff htop).1 hfile
  have hplace : disk.follow [] (Path.seenFrom around.here s) = .ok (top ++ file) := by
    rw [hs.seenFrom, Disk.follow_append, htop]
    exact hdisk.follow_file hmem
  have hisFile := Disk.isFileAt_iff.2 hmem
  have hofFile := @runValidate_of_findings libs around disk project json s _
    (checkPath_file hplace hisFile htext)
  have hofFolder := @runValidate_of_findings libs around disk project json d _
    (checkPath_folder hdisk hd htop)
  refine ⟨_, _, hofFile, hofFolder, ?_, ?_⟩
  · rw [hs.below, filter_problemsIn (nodup_below hdisk htop) hfile]
  · rw [hofFile, Findings.exitCode_outcome]
    split <;> simp_all

def docs : Disk where
  files := [([text "docs", text "a.md"], Utf8.ofText (text "\x7b\x7b/if\x7d\x7d")),
    ([text "docs", text "b.md"], [0xFF])]
  folders := []

theorem validate_agree_docs :
    docs.IsProper ∧
    (∃ ofFile ofFolder : Findings,
      runValidate .standard ⟨[], none, none⟩ docs [text "docs/a.md"] none true =
        ofFile.outcome docs true ∧
      runValidate .standard ⟨[], none, none⟩ docs [text "docs"] none true =
        ofFolder.outcome docs true ∧
      ofFile.problems = ofFolder.problems.filter (fun e => e.1 == text "docs/a.md")) ∧
    ∃ failure, (runValidate .standard ⟨[], none, none⟩ docs [text "docs/b.md"] none true).ending =
      .broken failure := by
  have hdisk : docs.IsProper := ⟨⟨by decide, by decide⟩, by decide, by decide⟩
  have hfolder : docs.isFolder [text "docs"] = true := by decide
  have hfile : [text "a.md"] ∈ Selection.standard.find docs [text "docs"] :=
    (Selection.mem_find_iff rfl).2 (by decide +kernel)
  have hjoins : Path.Joins (text "docs") [text "a.md"] (text "docs/a.md") :=
    Path.joins_slash ⟨'d', by decide, by decide⟩ (by decide)
  have hread : docs.readText [text "docs", text "a.md"] = .ok (text "\x7b\x7b/if\x7d\x7d") := by
    decide +kernel
  have hbroken : docs.readText [text "docs", text "b.md"] =
      .error (.undecodable ⟨0, 1, 0xFF, .invalidStart⟩) := by
    decide +kernel
  obtain ⟨hagree, hbreaks⟩ := validate_agree .standard ⟨[], none, none⟩ docs hdisk none true
  obtain ⟨ofFile, ofFolder, hofFile, hofFolder, hproblems, -⟩ :=
    hagree (text "docs") [text "a.md"] (text "docs/a.md") hfolder hfile hjoins
      fun fault h => nomatch hread.symm.trans h
  exact ⟨hdisk, ⟨ofFile, ofFolder, hofFile, hofFolder, hproblems⟩,
    (hbreaks [text "docs/b.md"] (List.cons_ne_nil _ _)).2
      ⟨_, List.mem_cons_self, _, hbroken⟩⟩

/-- The check of the folder reports the file that is no text; the check of the file breaks off. -/
theorem validate_undecodable :
    (text "b.md", [text "Cannot read template file: 'utf-8' codec can't decode byte 0xff in " ++
      text "position 0: invalid start byte"]) ∈ folderErrors docs [text "docs"] .standard ∧
    (runValidate .standard ⟨[], none, none⟩ docs [text "docs/b.md"] none true).ending =
      .broken (.undecodable ⟨0, 1, 0xFF, .invalidStart⟩) := by
  constructor
  · have hfile : [text "b.md"] ∈ Selection.standard.find docs [text "docs"] :=
      (Selection.mem_find_iff rfl).2 (by decide +kernel)
    exact List.mem_filterMap.2 ⟨_, hfile, by decide +kernel⟩
  · decide +kernel

end Stencil.CommandLine
