import Mathlib
import Stencil.Proofs.Folder.Shares

/-!
# A run over a folder

A trial run changes nothing and reports what a real run reports, if that one returns. It does not if
a new text has half of a surrogate pair in it, which only a write notices: the run stops there, and
the file is left empty. A real run that returns changes the files that it lists as modified, and no
others.
-/

namespace Stencil

variable {disk written : Disk} {folder : Path} {context : Fields} {selection : Selection}
  {dryRun : Bool} {report : Report} {place : Text × Path} {p : Path} {o : FileOutcome}

/-! ## Places instead of paths below the folder -/

theorem renderFolder_of_error {e : FileError} (h : disk.follow [] folder = .error e) :
    renderFolder disk folder context selection dryRun = (disk, .ok (.start 0)) := by
  unfold renderFolder
  rw [h]

theorem renderFolder_of_ok {top : Path} (h : disk.follow [] folder = .ok top) :
    renderFolder disk folder context selection dryRun =
      renderFiles top context dryRun disk (.start (selection.find disk folder).length)
        (selection.find disk folder) := by
  unfold renderFolder
  rw [h]

theorem renderFolder_dry : (renderFolder disk folder context selection true).1 = disk := by
  cases h : disk.follow [] folder with
  | error e => rw [renderFolder_of_error h]
  | ok top => rw [renderFolder_of_ok h, renderFiles_dry]

theorem paths_renderFolder :
    (renderFolder disk folder context selection dryRun).1.paths = disk.paths := by
  cases h : disk.follow [] folder with
  | error e => rw [renderFolder_of_error h]
  | ok top =>
    rw [renderFolder_of_ok h]
    exact paths_renderFiles fun file hfile => ((Selection.mem_find_iff h).1 hfile).1

theorem folders_renderFolder :
    (renderFolder disk folder context selection dryRun).1.folders = disk.folders := by
  cases h : disk.follow [] folder with
  | error e => rw [renderFolder_of_error h]
  | ok top => rw [renderFolder_of_ok h, folders_renderFiles]

theorem renderFolder_snd (htree : disk.IsTree) :
    (renderFolder disk folder context selection dryRun).2 =
      ((selection.places disk folder).mapM fun place =>
        fileShare context dryRun place.1 (disk.bytes? place.2)).map fun shares =>
          .start (selection.places disk folder).length ++ .sum shares := by
  cases h : disk.follow [] folder with
  | error e =>
    rw [renderFolder_of_error h, Selection.places_of_error h]
    rfl
  | ok top =>
    rw [renderFolder_of_ok h, Selection.places_of_ok h, List.mapM_map, List.length_map,
      renderFiles_snd (Selection.nodup_find htree h)]
    rfl

theorem bytes?_renderFolder_of_notMem (hp : p ∉ (selection.places disk folder).map Prod.snd) :
    (renderFolder disk folder context selection dryRun).1.bytes? p = disk.bytes? p := by
  cases h : disk.follow [] folder with
  | error e => rw [renderFolder_of_error h]
  | ok top =>
    rw [Selection.places_of_ok h, List.map_map] at hp
    rw [renderFolder_of_ok h]
    refine bytes?_renderFiles_of_notMem ?_
    rintro file hfile rfl
    exact hp (List.mem_map_of_mem hfile)

theorem bytes?_renderFolder_of_mem (htree : disk.IsTree)
    (hreport : (renderFolder disk folder context selection false).2 = .ok report)
    (hplace : place ∈ selection.places disk folder)
    (ho : FileOutcome.ofBytes (disk.bytes? place.2) context = .ok o) :
    (renderFolder disk folder context selection false).1.bytes? place.2 =
      (o.content?.map Utf8.ofText).or (disk.bytes? place.2) := by
  cases h : disk.follow [] folder with
  | error e =>
    rw [Selection.places_of_error h] at hplace
    cases hplace
  | ok top =>
    rw [Selection.places_of_ok h] at hplace
    rw [renderFolder_of_ok h] at hreport ⊢
    obtain ⟨file, hfile, rfl⟩ := List.mem_map.1 hplace
    exact bytes?_renderFiles_of_mem (Selection.nodup_find htree h) hfile hreport ho

/-! ## What is listed -/

def Disk.outcomeIs (disk : Disk) (context : Fields) (test : FileOutcome → Bool) (p : Path) : Bool :=
  (FileOutcome.ofBytes (disk.bytes? p) context).toOption.any test

theorem Disk.outcomeIs_eq {test : FileOutcome → Bool}
    (ho : FileOutcome.ofBytes (disk.bytes? p) context = .ok o) :
    disk.outcomeIs context test p = test o := by
  unfold outcomeIs
  rw [ho]
  rfl

theorem flatMap_eq_map_filter {α β γ : Type} {l : List α} {bs : List β} {test : α → Bool}
    {f : α → γ} {g : β → List γ}
    (h : List.Forall₂ (fun a b => g b = if test a then [f a] else []) l bs) :
    bs.flatMap g = (l.filter test).map f := by
  induction h with
  | nil => rfl
  | @cons a b l bs hab _ ih =>
    rw [List.flatMap_cons, hab, ih]
    cases ht : test a with
    | false => rw [List.filter_cons_of_neg (by simp [ht])]; rfl
    | true => rw [List.filter_cons_of_pos ht]; rfl

section Listed

variable {places : List (Text × Path)} {shares : List Report}

theorem exists_outcome (h : places.mapM (fun place =>
      fileShare context dryRun place.1 (disk.bytes? place.2)) = .ok shares) :
    ∀ place ∈ places, ∃ o, FileOutcome.ofBytes (disk.bytes? place.2) context = .ok o ∧
      o.ending dryRun = .ok () := by
  have hall := Outcome.mapM_eq_ok_iff.1 h
  clear h
  induction hall with
  | nil => exact List.forall_mem_nil _
  | cons hshare _ ih =>
    obtain ⟨o, ho, hending, -⟩ := fileShare_eq_ok_iff.1 hshare
    exact List.forall_mem_cons.2 ⟨⟨o, ho, hending⟩, ih⟩

theorem exists_share (h : places.mapM (fun place =>
      fileShare context dryRun place.1 (disk.bytes? place.2)) = .ok shares) :
    ∀ share ∈ shares, ∃ name o, share = FileOutcome.share name o := by
  intro share hshare
  obtain ⟨place, -, hplace⟩ := Outcome.exists_of_mem_mapM h hshare
  obtain ⟨o, -, -, rfl⟩ := fileShare_eq_ok_iff.1 hplace
  exact ⟨place.1, o, rfl⟩

theorem list_sum_shares {list : Report → List Text} {test : FileOutcome → Bool}
    (hstart : list (.start 0) = []) (happend : ∀ a b : Report, list (a ++ b) = list a ++ list b)
    (hlist : ∀ name (o : FileOutcome), list (o.share name) = if test o then [name] else [])
    (h : places.mapM (fun place =>
      fileShare context dryRun place.1 (disk.bytes? place.2)) = .ok shares) :
    list (.sum shares) =
      (places.filter fun place => disk.outcomeIs context test place.2).map Prod.fst := by
  rw [Report.list_sum hstart happend]
  refine flatMap_eq_map_filter ((Outcome.mapM_eq_ok_iff.1 h).imp ?_)
  intro place share hshare
  obtain ⟨o, ho, -, rfl⟩ := fileShare_eq_ok_iff.1 hshare
  rw [hlist, Disk.outcomeIs_eq ho]

end Listed

theorem renderFolder_listed (htree : disk.IsTree)
    (h : (renderFolder disk folder context selection dryRun).2 = .ok report) :
    (∀ place ∈ selection.places disk folder,
      ∃ o, FileOutcome.ofBytes (disk.bytes? place.2) context = .ok o ∧ o.ending dryRun = .ok ()) ∧
    report.filesWithErrors = ((selection.places disk folder).filter fun place =>
      disk.outcomeIs context FileOutcome.isRefused place.2).map Prod.fst ∧
    report.modifiedFiles = ((selection.places disk folder).filter fun place =>
      disk.outcomeIs context (fun o => o.content?.isSome) place.2).map Prod.fst ∧
    report.filesModified = report.modifiedFiles.length ∧
    report.totalFiles = (selection.places disk folder).length := by
  rw [renderFolder_snd htree] at h
  cases hshares : (selection.places disk folder).mapM fun place =>
      fileShare context dryRun place.1 (disk.bytes? place.2) with
  | error e =>
    rw [hshares] at h
    cases h
  | ok shares =>
    rw [hshares] at h
    cases h
    have hcount : ∀ share ∈ shares, share.filesModified = share.modifiedFiles.length := by
      intro share hshare
      obtain ⟨name, o, rfl⟩ := exists_share hshares share hshare
      exact FileOutcome.filesModified_share
    have htotal : ∀ share ∈ shares, share.totalFiles = 0 := by
      intro share hshare
      obtain ⟨name, o, rfl⟩ := exists_share hshares share hshare
      exact FileOutcome.totalFiles_share
    refine ⟨exists_outcome hshares, ?_, ?_, ?_, ?_⟩
    · exact list_sum_shares rfl (fun _ _ => rfl) (fun _ _ => FileOutcome.filesWithErrors_share)
        hshares
    · exact list_sum_shares rfl (fun _ _ => rfl) (fun _ _ => FileOutcome.modifiedFiles_share)
        hshares
    · simp [Report.append_eq, Report.start, Report.filesModified_sum hcount]
    · simp [Report.append_eq, Report.start, Report.totalFiles_sum htotal]

section Lists

variable (htree : disk.IsTree)
  (hreport : (renderFolder disk folder context selection dryRun).2 = .ok report)
  (hplace : place ∈ selection.places disk folder)
  (ho : FileOutcome.ofBytes (disk.bytes? place.2) context = .ok o)

include htree hplace ho

/-- No two files share a name, so a file is named in a list only for its own outcome. -/
theorem mem_listed_iff {test : FileOutcome → Bool} :
    place.1 ∈ ((selection.places disk folder).filter fun place =>
      disk.outcomeIs context test place.2).map Prod.fst ↔ test o = true := by
  constructor
  · intro hmem
    obtain ⟨other, hother, hname⟩ := List.mem_map.1 hmem
    obtain ⟨hother, htest⟩ := List.mem_filter.1 hother
    obtain rfl : other = place :=
      List.inj_on_of_nodup_map (Selection.nodup_places_name htree) hother hplace hname
    rwa [Disk.outcomeIs_eq ho] at htest
  · intro htest
    have hlisted : disk.outcomeIs context test place.2 = true := by rw [Disk.outcomeIs_eq ho, htest]
    exact List.mem_map_of_mem (List.mem_filter.2 ⟨hplace, hlisted⟩)

include hreport

theorem mem_filesWithErrors_iff : place.1 ∈ report.filesWithErrors ↔ o.isRefused = true := by
  rw [(renderFolder_listed htree hreport).2.1, mem_listed_iff htree hplace ho]

theorem mem_modifiedFiles_iff : place.1 ∈ report.modifiedFiles ↔ o.content?.isSome = true := by
  rw [(renderFolder_listed htree hreport).2.2.1, mem_listed_iff htree hplace ho]

end Lists

theorem notMem_modifiedFiles {name : Text} (htree : disk.IsTree)
    (hreport : (renderFolder disk folder context selection dryRun).2 = .ok report)
    (herror : name ∈ report.filesWithErrors) : name ∉ report.modifiedFiles := by
  intro hmod
  -- A name in both lists would be the name of one place, whose outcome is not both.
  obtain ⟨houtcome, herrors, -⟩ := renderFolder_listed htree hreport
  have hlisted := herror
  rw [herrors] at hlisted
  obtain ⟨place, hmem, rfl⟩ := List.mem_map.1 hlisted
  have hplace := (List.mem_filter.1 hmem).1
  obtain ⟨o, ho, -⟩ := houtcome place hplace
  rw [mem_modifiedFiles_iff htree hreport hplace ho] at hmod
  rw [mem_filesWithErrors_iff htree hreport hplace ho,
    FileOutcome.not_isRefused_of_content? hmod] at herror
  cases herror

/-! ## The run -/

/-- Why a run leaves the file at a place of the disk as it is. -/
inductive Kept (places : List (Text × Path)) (context : Fields) (disk : Disk) (p : Path) : Prop
  | unselected (h : p ∉ places.map Prod.snd)
  | unreadable (failure : Failure) (h : textOf (disk.bytes? p) = .error failure)
  | faulty (old : Text) (h : textOf (disk.bytes? p) = .ok old) (he : templateErrors old ≠ [])
  | unmarked (old : Text) (h : textOf (disk.bytes? p) = .ok old) (hm : hasMarker old = false)
  | same (old : Text) (r : Rendered) (h : textOf (disk.bytes? p) = .ok old)
      (hr : render old context = .ok r) (hs : r.content = old)

/-- A real run over the selected files that returns a report, and the disk that it leaves. -/
structure RealRun (places : List (Text × Path)) (context : Fields) (disk written : Disk)
    (report : Report) : Prop where
  paths : written.paths = disk.paths
  folders : written.folders = disk.folders
  changed : ∀ p, written.bytes? p ≠ disk.bytes? p →
    ∃ name, (name, p) ∈ places ∧ name ∈ report.modifiedFiles
  rendered : ∀ name p, (name, p) ∈ places → name ∈ report.modifiedFiles →
    ∃ old r bytes, textOf (disk.bytes? p) = .ok old ∧ render old context = .ok r ∧
      Utf8.encode r.content = .ok bytes ∧ written.bytes? p = some bytes
  kept : ∀ p, Kept places context disk p → written.bytes? p = disk.bytes? p
  distinct : (places.map Prod.fst).Nodup
  errorsInOrder : report.filesWithErrors.Sublist (places.map Prod.fst)
  modifiedInOrder : report.modifiedFiles.Sublist (places.map Prod.fst)
  separate : ∀ name ∈ report.filesWithErrors, name ∉ report.modifiedFiles
  filesModified : report.filesModified = report.modifiedFiles.length
  totalFiles : report.totalFiles = places.length

theorem content?_eq_none_of_kept {places : List (Text × Path)}
    (hkept : Kept places context disk place.2) (hplace : place ∈ places)
    (ho : FileOutcome.ofBytes (disk.bytes? place.2) context = .ok o) : o.content? = none := by
  refine Option.eq_none_iff_forall_ne_some.2 fun new hnew => ?_
  obtain ⟨old, r, hold, hm, hr, he, -, hne, -⟩ := FileOutcome.of_content? ho hnew
  cases hkept with
  | unselected h => exact h (List.mem_map_of_mem hplace)
  | unreadable failure h =>
    rw [hold] at h
    cases h
  | faulty old' h he' =>
    obtain rfl : old = old' := Except.ok.inj (hold.symm.trans h)
    exact he' he
  | unmarked old' h hm' =>
    obtain rfl : old = old' := Except.ok.inj (hold.symm.trans h)
    rw [hm] at hm'
    cases hm'
  | same old' r' h hr' hs =>
    obtain rfl : old = old' := Except.ok.inj (hold.symm.trans h)
    obtain rfl : r = r' := Except.ok.inj (hr.symm.trans hr')
    exact hne hs

section Real

variable (htree : disk.IsTree)
  (hrun : renderFolder disk folder context selection false = (written, .ok report))

include htree hrun

theorem bytes?_of_run (p : Path) :
    written.bytes? p = disk.bytes? p ∧ p ∉ (selection.places disk folder).map Prod.snd ∨
    ∃ place ∈ selection.places disk folder, place.2 = p ∧ ∃ o,
      FileOutcome.ofBytes (disk.bytes? p) context = .ok o ∧
      o.ending false = .ok () ∧
      written.bytes? p = (o.content?.map Utf8.ofText).or (disk.bytes? p) := by
  have hreport : (renderFolder disk folder context selection false).2 = .ok report := by rw [hrun]
  have hwritten : (renderFolder disk folder context selection false).1 = written := by rw [hrun]
  rw [← hwritten]
  by_cases hp : p ∈ (selection.places disk folder).map Prod.snd
  · obtain ⟨place, hplace, rfl⟩ := List.mem_map.1 hp
    obtain ⟨o, ho, hending⟩ := (renderFolder_listed htree hreport).1 place hplace
    exact .inr ⟨place, hplace, rfl, o, ho, hending,
      bytes?_renderFolder_of_mem htree hreport hplace ho⟩
  · exact .inl ⟨bytes?_renderFolder_of_notMem hp, hp⟩

theorem exists_modified_of_changed (hne : written.bytes? p ≠ disk.bytes? p) :
    ∃ name, (name, p) ∈ selection.places disk folder ∧ name ∈ report.modifiedFiles := by
  have hreport : (renderFolder disk folder context selection false).2 = .ok report := by rw [hrun]
  obtain ⟨heq, -⟩ | ⟨⟨name, p⟩, hplace, rfl, o, ho, -, hbytes⟩ := bytes?_of_run htree hrun p
  · exact absurd heq hne
  · refine ⟨name, hplace, (mem_modifiedFiles_iff htree hreport hplace ho).2 ?_⟩
    cases hc : o.content? with
    | some new => rfl
    | none =>
      rw [hc, Option.map_none, Option.none_or] at hbytes
      exact absurd hbytes hne

theorem realRun : RealRun (selection.places disk folder) context disk written report := by
  have hreport : (renderFolder disk folder context selection false).2 = .ok report := by rw [hrun]
  have hwritten : (renderFolder disk folder context selection false).1 = written := by rw [hrun]
  obtain ⟨houtcome, herrors, hmodified, hcount, htotal⟩ := renderFolder_listed htree hreport
  constructor
  case paths => rw [← hwritten, paths_renderFolder]
  case folders => rw [← hwritten, folders_renderFolder]
  case changed => exact fun p => exists_modified_of_changed htree hrun
  case rendered =>
    intro name p hplace hname
    obtain ⟨o, ho, hending⟩ := houtcome _ hplace
    rw [mem_modifiedFiles_iff htree hreport hplace ho, Option.isSome_iff_exists] at hname
    obtain ⟨new, hnew⟩ := hname
    obtain ⟨old, r, hold, -, hr, -, -, -, rfl⟩ := FileOutcome.of_content? ho hnew
    refine ⟨old, r, Utf8.ofText r.content, hold, hr, o.encode_of_ending hending hnew, ?_⟩
    rw [← hwritten, bytes?_renderFolder_of_mem htree hreport hplace ho, hnew, Option.map_some,
      Option.some_or]
  case kept =>
    intro p hkept
    obtain ⟨heq, -⟩ | ⟨place, hplace, rfl, o, ho, -, hbytes⟩ := bytes?_of_run htree hrun p
    · exact heq
    · rw [hbytes, content?_eq_none_of_kept hkept hplace ho, Option.map_none, Option.none_or]
  case distinct => exact Selection.nodup_places_name htree
  case errorsInOrder =>
    rw [herrors]
    exact List.filter_sublist.map _
  case modifiedInOrder =>
    rw [hmodified]
    exact List.filter_sublist.map _
  case separate => exact fun name => notMem_modifiedFiles htree hreport
  case filesModified => exact hcount
  case totalFiles => exact htotal

end Real

theorem dry_of_real (htree : disk.IsTree)
    (h : (renderFolder disk folder context selection false).2 = .ok report) :
    (renderFolder disk folder context selection true).2 = .ok report := by
  rw [renderFolder_snd htree] at h ⊢
  obtain ⟨shares, hshares, hreport⟩ := Outcome.map_eq_ok_iff.1 h
  refine Outcome.map_eq_ok_iff.2 ⟨shares, ?_, hreport⟩
  refine Outcome.mapM_eq_ok_iff.2 ((Outcome.mapM_eq_ok_iff.1 hshares).imp ?_)
  intro place share hshare
  obtain ⟨o, ho, -, hname⟩ := fileShare_eq_ok_iff.1 hshare
  exact fileShare_eq_ok_iff.2 ⟨o, ho, o.ending_dry, hname⟩

/-- The text that a run puts in place of the text of a file. -/
def NewText (disk : Disk) (context : Fields) (p : Path) (new : Text) : Prop :=
  ∃ old r, textOf (disk.bytes? p) = .ok old ∧ hasMarker old = true ∧ render old context = .ok r ∧
    r.errors = [] ∧ r.modified = true ∧ r.content ≠ old ∧ r.content = new

theorem newText_iff {new : Text} :
    NewText disk context p new ↔
      ∃ o, FileOutcome.ofBytes (disk.bytes? p) context = .ok o ∧ o.content? = some new := by
  constructor
  · rintro ⟨old, r, hold, hm, hr, he, hmodified, hne, rfl⟩
    exact FileOutcome.content?_of_render hold hm hr he hmodified hne
  · rintro ⟨o, ho, hnew⟩
    obtain ⟨old, r, hold, hm, hr, he, hmodified, hne, hcontent⟩ := FileOutcome.of_content? ho hnew
    exact ⟨old, r, hold, hm, hr, (errors_of_render hr).trans he, hmodified, hne, hcontent⟩

section Rendering

variable (htree : disk.IsTree)
  (hrenders : ∀ place ∈ selection.places disk folder, ∀ old,
    textOf (disk.bytes? place.2) = .ok old → hasMarker old = true →
      ∃ r, render old context = .ok r)

include htree hrenders

theorem exists_report :
    ∃ report, (renderFolder disk folder context selection true).2 = .ok report := by
  have hshares : ∀ place ∈ selection.places disk folder,
      ∃ share, fileShare context true place.1 (disk.bytes? place.2) = .ok share := by
    intro place hplace
    obtain ⟨o, ho⟩ := FileOutcome.exists_ofBytes (hrenders place hplace)
    exact ⟨_, fileShare_eq_ok_iff.2 ⟨o, ho, o.ending_dry, rfl⟩⟩
  obtain ⟨shares, hshares⟩ := Outcome.exists_mapM hshares
  rw [renderFolder_snd htree, hshares]
  exact ⟨_, rfl⟩

/-- A real run returns exactly if every new text can be written. -/
theorem returns_iff :
    (∃ report, (renderFolder disk folder context selection false).2 = .ok report) ↔
      ∀ place ∈ selection.places disk folder, ∀ new, NewText disk context place.2 new →
        ∃ bytes, Utf8.encode new = .ok bytes := by
  constructor
  · rintro ⟨report, hreport⟩ place hplace new hnew
    obtain ⟨o, ho, hcontent⟩ := newText_iff.1 hnew
    obtain ⟨o', ho', hending⟩ := (renderFolder_listed htree hreport).1 place hplace
    obtain rfl : o' = o := Except.ok.inj (ho'.symm.trans ho)
    exact ⟨_, o'.encode_of_ending hending hcontent⟩
  · intro hencodes
    have hshares : ∀ place ∈ selection.places disk folder,
        ∃ share, fileShare context false place.1 (disk.bytes? place.2) = .ok share := by
      intro place hplace
      obtain ⟨o, ho⟩ := FileOutcome.exists_ofBytes (hrenders place hplace)
      have hending : o.ending false = .ok () := FileOutcome.ending_of_encode fun new hnew =>
        hencodes place hplace new (newText_iff.2 ⟨o, ho, hnew⟩)
      exact ⟨_, fileShare_eq_ok_iff.2 ⟨o, ho, hending, rfl⟩⟩
    obtain ⟨shares, hshares⟩ := Outcome.exists_mapM hshares
    rw [renderFolder_snd htree, hshares]
    exact ⟨_, rfl⟩

/-- A real run that does not return has met a new text that cannot be written. The file of that text
is left empty. -/
theorem exists_emptied_of_error {failure : Failure}
    (hstop : (renderFolder disk folder context selection false).2 = .error failure) :
    ∃ place ∈ selection.places disk folder, ∃ new halves, NewText disk context place.2 new ∧
      Utf8.encode new = .error halves ∧ failure = .unencodable halves ∧
      (renderFolder disk folder context selection false).1.bytes? place.2 = some [] := by
  have herror := hstop
  rw [renderFolder_snd htree, Outcome.map_eq_error_iff] at herror
  obtain ⟨place, hplace, hshare⟩ := Outcome.exists_of_mapM_eq_error herror
  -- Every text renders, so that only a write can have failed.
  obtain ⟨o, ho⟩ := FileOutcome.exists_ofBytes (hrenders place hplace)
  obtain ⟨halves, rfl⟩ : ∃ halves, failure = .unencodable halves := by
    obtain ⟨e, he, -⟩ | ⟨o', -, hending⟩ := of_fileShare_eq_error hshare
    · rw [ho] at he
      cases he
    · obtain ⟨-, new, halves, -, -, hfailure⟩ := FileOutcome.of_ending_error hending
      exact ⟨halves, hfailure⟩
  cases h : disk.follow [] folder with
  | error e =>
    rw [renderFolder_of_error h] at hstop
    cases hstop
  | ok top =>
    rw [renderFolder_of_ok h] at hstop ⊢
    obtain ⟨file, hfile, o, new, ho, hnew, hhalves, hbytes⟩ :=
      exists_emptied (Selection.nodup_find htree h) hstop
    refine ⟨(Path.relativeText file, top ++ file), ?_, new, halves, newText_iff.2 ⟨o, ho, hnew⟩,
      hhalves, rfl, hbytes⟩
    rw [Selection.places_of_ok h]
    exact List.mem_map_of_mem hfile

end Rendering

/-- A trial run changes nothing, and it reports what a real run reports, if that one returns. It
does if every new text can be written; else the file of one that cannot is left empty. -/
theorem renderFolder_run (disk : Disk) (folder : Path) (context : Fields) (selection : Selection)
    (htree : disk.IsTree) :
    (renderFolder disk folder context selection true).1 = disk ∧
    (∀ dryRun, (renderFolder disk folder context selection dryRun).2 =
      ((selection.places disk folder).mapM fun place =>
        fileShare context dryRun place.1 (disk.bytes? place.2)).map fun shares =>
          .start (selection.places disk folder).length ++ .sum shares) ∧
    ((∀ place ∈ selection.places disk folder, ∀ old, textOf (disk.bytes? place.2) = .ok old →
        hasMarker old = true → ∃ r, render old context = .ok r) →
      (∃ report, renderFolder disk folder context selection true = (disk, .ok report)) ∧
      ((∃ written report,
          renderFolder disk folder context selection false = (written, .ok report)) ↔
        ∀ place ∈ selection.places disk folder, ∀ new, NewText disk context place.2 new →
          ∃ bytes, Utf8.encode new = .ok bytes) ∧
      ∀ written failure,
        renderFolder disk folder context selection false = (written, .error failure) →
          ∃ place ∈ selection.places disk folder, ∃ new halves, NewText disk context place.2 new ∧
            Utf8.encode new = .error halves ∧ failure = .unencodable halves ∧
            written.bytes? place.2 = some []) ∧
    (∀ p, p ∉ (selection.places disk folder).map Prod.snd →
      (renderFolder disk folder context selection false).1.bytes? p = disk.bytes? p) ∧
    ∀ written report, renderFolder disk folder context selection false = (written, .ok report) →
      renderFolder disk folder context selection true = (disk, .ok report) ∧
      RealRun (selection.places disk folder) context disk written report := by
  refine ⟨renderFolder_dry, fun dryRun => renderFolder_snd htree, fun hrenders => ⟨?_, ?_, ?_⟩,
    fun p => bytes?_renderFolder_of_notMem, fun written report hrun => ⟨?_, realRun htree hrun⟩⟩
  · obtain ⟨report, hreport⟩ := exists_report htree hrenders
    exact ⟨report, Prod.ext renderFolder_dry hreport⟩
  · rw [← returns_iff htree hrenders]
    constructor
    · rintro ⟨written, report, hrun⟩
      exact ⟨report, congrArg Prod.snd hrun⟩
    · rintro ⟨report, hreport⟩
      exact ⟨_, report, Prod.ext rfl hreport⟩
  · intro written failure hrun
    have hemptied := exists_emptied_of_error htree hrenders (congrArg Prod.snd hrun)
    rwa [hrun] at hemptied
  · exact Prod.ext renderFolder_dry (dry_of_real htree (congrArg Prod.snd hrun))

/-- A template that can be rendered, one that cannot be read, and a file that is not selected. -/
def Disk.notes : Disk where
  files := [([text "b.md"], [0xFF]),
    ([text "a.md"], Utf8.ofText (text "Hi \x7b\x7bn\x7d\x7d")),
    ([text "c.py"], Utf8.ofText (text "\x7b\x7bn\x7d\x7d"))]
  folders := []

theorem Disk.isTree_notes : Disk.notes.IsTree := ⟨by decide, by decide⟩

theorem Disk.places_notes : Selection.places .standard .notes [] =
    [(text "a.md", [text "a.md"]), (text "b.md", [text "b.md"])] := by
  cbv

theorem render_hi : render (text "Hi \x7b\x7bn\x7d\x7d") [(text "n", .str (text "Bo"))] =
    .ok ⟨text "Hi Bo", true, 1, [], []⟩ := by
  cbv

/-- The only one of the selected files that is a text is the template. -/
theorem Disk.eq_of_textOf_notes {place : Text × Path} {old : Text}
    (hplace : place ∈ Selection.places .standard .notes [])
    (hold : textOf (Disk.notes.bytes? place.2) = .ok old) :
    old = text "Hi \x7b\x7bn\x7d\x7d" := by
  rw [places_notes] at hplace
  obtain rfl | hplace := List.mem_cons.1 hplace
  · exact (Except.ok.inj hold).symm
  · obtain rfl := List.mem_singleton.1 hplace
    cases hold

theorem Disk.renders_notes : ∀ place ∈ Selection.places .standard .notes [], ∀ old,
    textOf (Disk.notes.bytes? place.2) = .ok old → hasMarker old = true →
      ∃ r, render old [(text "n", .str (text "Bo"))] = .ok r := by
  intro place hplace old hold _
  obtain rfl := Disk.eq_of_textOf_notes hplace hold
  exact ⟨_, render_hi⟩

theorem Disk.encodes_notes : ∀ place ∈ Selection.places .standard .notes [], ∀ new,
    NewText .notes [(text "n", .str (text "Bo"))] place.2 new →
      ∃ bytes, Utf8.encode new = .ok bytes := by
  rintro place hplace - ⟨old, r, hold, -, hr, -, -, -, rfl⟩
  obtain rfl := Disk.eq_of_textOf_notes hplace hold
  obtain rfl := Except.ok.inj (render_hi.symm.trans hr)
  exact ⟨_, Utf8.encode_map_chr _⟩

theorem renderFolder_run_notes :
    Disk.notes.IsTree ∧ ∃ written report,
      renderFolder .notes [] [(text "n", .str (text "Bo"))] .standard true =
        (.notes, .ok report) ∧
      renderFolder .notes [] [(text "n", .str (text "Bo"))] .standard false =
        (written, .ok report) ∧
      RealRun (Selection.places .standard .notes []) [(text "n", .str (text "Bo"))] .notes written
        report := by
  obtain ⟨-, -, hreturns, -, hreal⟩ :=
    renderFolder_run .notes [] [(text "n", .str (text "Bo"))] .standard Disk.isTree_notes
  obtain ⟨-, hiff, -⟩ := hreturns Disk.renders_notes
  obtain ⟨written, report, hrun⟩ := hiff.2 Disk.encodes_notes
  obtain ⟨hdry, hreal⟩ := hreal written report hrun
  exact ⟨Disk.isTree_notes, written, report, hdry, hrun, hreal⟩

set_option maxRecDepth 8000 in
/-- A text with half of a surrogate pair is put in the place of a reference: the trial run reports a
file that it would change, and the real one empties the file and stops. -/
theorem renderFolder_half :
    let disk : Disk := ⟨[([text "a.md"], Utf8.ofText (text "\x7b\x7bn\x7d\x7d"))], []⟩
    let context : Fields := [(text "n", .str [.lone 0])]
    disk.IsTree ∧
    render (text "\x7b\x7bn\x7d\x7d") context = .ok ⟨[.lone 0], true, 1, [], []⟩ ∧
    renderFolder disk [] context .standard true =
      (disk, .ok ⟨1, 1, 1, [], [], [text "a.md"]⟩) ∧
    renderFolder disk [] context .standard false =
      (⟨[([text "a.md"], [])], []⟩, .error (.unencodable ⟨0, 1, .lone 0⟩)) := by
  refine ⟨⟨by decide, by decide⟩, by cbv, by cbv, by cbv⟩

end Stencil
