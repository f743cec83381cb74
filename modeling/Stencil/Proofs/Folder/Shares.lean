import Stencil.Folder
import Stencil.Proofs.Folder.Places
import Stencil.Proofs.Outcome
import Stencil.Proofs.Text.Encoding

/-!
# What each file adds to a report

The report of a run is the sum of what each file adds to it, and what a file adds has only its
name, its bytes and the context to come from. So it does not matter what a run writes on the way.
-/

namespace Stencil

/-! ## Sums of reports -/

namespace Report

def append (a b : Report) : Report where
  totalFiles := a.totalFiles + b.totalFiles
  filesModified := a.filesModified + b.filesModified
  totalDirectives := a.totalDirectives + b.totalDirectives
  filesWithErrors := a.filesWithErrors ++ b.filesWithErrors
  warnings := a.warnings ++ b.warnings
  modifiedFiles := a.modifiedFiles ++ b.modifiedFiles

instance : Append Report := ⟨append⟩

def sum (rs : List Report) : Report := rs.foldr append (start 0)

theorem append_eq (a b : Report) :
    a ++ b = ⟨a.totalFiles + b.totalFiles, a.filesModified + b.filesModified,
      a.totalDirectives + b.totalDirectives, a.filesWithErrors ++ b.filesWithErrors,
      a.warnings ++ b.warnings, a.modifiedFiles ++ b.modifiedFiles⟩ := rfl

theorem append_assoc (a b c : Report) : a ++ b ++ c = a ++ (b ++ c) := by
  simp only [append_eq, List.append_assoc, Int.add_assoc]

theorem append_start_zero (a : Report) : a ++ start 0 = a := by
  simp [append_eq, start]

theorem sum_cons (a : Report) (rs : List Report) : sum (a :: rs) = a ++ sum rs := rfl

theorem list_sum {list : Report → List Text} (hstart : list (start 0) = [])
    (happend : ∀ a b : Report, list (a ++ b) = list a ++ list b) (rs : List Report) :
    list (sum rs) = rs.flatMap list := by
  induction rs with
  | nil => exact hstart
  | cons a rs ih => rw [sum_cons, happend, ih, List.flatMap_cons]

theorem filesModified_sum {rs : List Report}
    (h : ∀ r ∈ rs, r.filesModified = r.modifiedFiles.length) :
    (sum rs).filesModified = (sum rs).modifiedFiles.length := by
  induction rs with
  | nil => rfl
  | cons a rs ih =>
    obtain ⟨ha, hrs⟩ := List.forall_mem_cons.1 h
    rw [sum_cons, append_eq, ih hrs, ha, List.length_append, Int.natCast_add]

theorem totalFiles_sum {rs : List Report} (h : ∀ r ∈ rs, r.totalFiles = 0) :
    (sum rs).totalFiles = 0 := by
  induction rs with
  | nil => rfl
  | cons a rs ih =>
    obtain ⟨ha, hrs⟩ := List.forall_mem_cons.1 h
    rw [sum_cons, append_eq, ih hrs, ha, Int.add_zero]

theorem add_eq (r : Report) (name : Text) (o : FileOutcome) :
    r.add name o = r ++ (start 0).add name o := by
  cases o <;> simp [add, append_eq, start]

end Report

/-! ## One file -/

namespace FileOutcome

def isRefused : FileOutcome → Bool
  | unreadable => true
  | faulty _ => true
  | unmarked => false
  | rendered _ _ _ => false

/-- What the outcome for a file adds to a report. -/
def share (name : Text) (o : FileOutcome) : Report := (Report.start 0).add name o

variable {name : Text} {o : FileOutcome}

theorem filesWithErrors_share :
    (share name o).filesWithErrors = if o.isRefused then [name] else [] := by
  cases o <;> rfl

theorem modifiedFiles_share :
    (share name o).modifiedFiles = if o.content?.isSome then [name] else [] := by
  cases o with
  | rendered content directives warnings => cases content <;> rfl
  | _ => rfl

theorem totalFiles_share : (share name o).totalFiles = 0 := by
  cases o <;> rfl

theorem filesModified_share :
    (share name o).filesModified = (share name o).modifiedFiles.length := by
  rw [modifiedFiles_share]
  cases o with
  | rendered content directives warnings => cases content <;> rfl
  | _ => rfl

theorem not_isRefused_of_content? (h : o.content?.isSome) : o.isRefused = false := by
  cases o <;> first | rfl | cases h

end FileOutcome

theorem errors_of_render {template : Text} {context : Fields} {r : Rendered}
    (h : render template context = .ok r) : r.errors = templateErrors template := by
  unfold render at h
  unfold templateErrors
  split at h
  · cases h
    rfl
  · obtain ⟨x, -, hx⟩ := Outcome.bind_eq_ok_iff.1 h
    cases hx
    rfl

namespace FileOutcome

variable {old new : Text} {bytes? : Option Bytes} {context : Fields} {o : FileOutcome}

theorem ofText_cases (h : ofText old context = .ok o) :
    (hasMarker old = false ∧ o = unmarked) ∨
    ∃ r, hasMarker old = true ∧ render old context = .ok r ∧
      (templateErrors old ≠ [] ∧ o = faulty (templateErrors old) ∨
        templateErrors old = [] ∧
          o = rendered (if r.modified && r.content != old then some r.content else none)
            r.directives r.warnings) := by
  unfold ofText at h
  cases hm : hasMarker old with
  | false =>
    rw [hm] at h
    cases h
    exact .inl ⟨rfl, rfl⟩
  | true =>
    rw [hm] at h
    obtain ⟨r, hr, h⟩ := Outcome.bind_eq_ok_iff.1 h
    refine .inr ⟨r, rfl, hr, ?_⟩
    rw [← errors_of_render hr]
    unfold Rendered.isOk at h
    cases he : r.errors with
    | nil =>
      rw [he] at h
      cases h
      exact .inr ⟨rfl, rfl⟩
    | cons e es =>
      rw [he] at h
      cases h
      exact .inl ⟨List.cons_ne_nil _ _, rfl⟩

theorem of_content? (ho : ofBytes bytes? context = .ok o) (hnew : o.content? = some new) :
    ∃ old r, textOf bytes? = .ok old ∧ hasMarker old = true ∧ render old context = .ok r ∧
      templateErrors old = [] ∧ r.modified = true ∧ r.content ≠ old ∧ r.content = new := by
  unfold ofBytes at ho
  split at ho
  · cases ho
    cases hnew
  · next old hold =>
    obtain ⟨-, rfl⟩ | ⟨r, hm, hr, ⟨-, rfl⟩ | ⟨he, rfl⟩⟩ := ofText_cases ho
    · cases hnew
    · cases hnew
    · obtain ⟨hc, hnew⟩ := Option.ite_none_right_eq_some.1 hnew
      cases hnew
      rw [Bool.and_eq_true, bne_iff_ne] at hc
      exact ⟨old, r, hold, hm, hr, he, hc.1, hc.2, rfl⟩

theorem content?_of_render {r : Rendered} (hold : textOf bytes? = .ok old)
    (hm : hasMarker old = true) (hr : render old context = .ok r) (he : r.errors = [])
    (hmodified : r.modified = true) (hne : r.content ≠ old) :
    ∃ o, ofBytes bytes? context = .ok o ∧ o.content? = some r.content := by
  refine ⟨rendered (some r.content) r.directives r.warnings, ?_, rfl⟩
  rw [ofBytes, hold]
  have hok : r.isOk = true := by rw [Rendered.isOk, he]; rfl
  simp [ofText, hm, hr, hok, hmodified, hne, bind, Except.bind, pure, Except.pure]

theorem exists_ofBytes (h : ∀ old, textOf bytes? = .ok old → hasMarker old = true →
    ∃ r, render old context = .ok r) : ∃ o, ofBytes bytes? context = .ok o := by
  unfold ofBytes
  split
  · exact ⟨_, rfl⟩
  · next old hold =>
    unfold ofText
    cases hm : hasMarker old with
    | false => exact ⟨_, rfl⟩
    | true =>
      obtain ⟨r, hr⟩ := h old hold hm
      rw [hr]
      cases he : r.isOk with
      | false => exact ⟨faulty r.errors, by simp [bind, Except.bind, he, pure, Except.pure]⟩
      | true => exact ⟨_, by simp [bind, Except.bind, he, pure, Except.pure]; rfl⟩

end FileOutcome

/-! ## Writing -/

section Writing

variable {disk : Disk} {p q : Path} {s new : Text} {bytes : Bytes} {halves : Utf8.Halves}
  {dryRun : Bool} {o : FileOutcome}

/-- How writing the new text of a file ends. -/
def FileOutcome.ending (o : FileOutcome) (dryRun : Bool) : Except Failure Unit :=
  match o.content? with
  | some content =>
    if dryRun then .ok () else ((Utf8.encode content).map fun _ => ()).mapError .unencodable
  | none => .ok ()

theorem FileOutcome.ending_dry (o : FileOutcome) : o.ending true = .ok () := by
  unfold ending
  split <;> rfl

theorem Disk.storeAt_eq (disk : Disk) (p : Path) (s : Text) :
    (disk.storeAt p s).2 = ((Utf8.encode s).map fun _ => ()).mapError .unencodable ∧
      ∃ bytes, (disk.storeAt p s).1 = disk.writeAt p bytes := by
  unfold storeAt
  cases Utf8.encode s with
  | error halves => exact ⟨rfl, [], rfl⟩
  | ok bytes => exact ⟨rfl, bytes, rfl⟩

theorem FileOutcome.store_eq (o : FileOutcome) (dryRun : Bool) (disk : Disk) (p : Path) :
    (o.store dryRun disk p).2 = o.ending dryRun ∧
      ((o.store dryRun disk p).1 = disk ∨
        ∃ bytes, (o.store dryRun disk p).1 = disk.writeAt p bytes) := by
  unfold store ending
  cases o.content? with
  | none => exact ⟨rfl, .inl rfl⟩
  | some new =>
    cases dryRun with
    | true => exact ⟨rfl, .inl rfl⟩
    | false => exact (disk.storeAt_eq p new).imp id .inr

theorem FileOutcome.encode_of_ending (h : o.ending false = .ok ()) (hnew : o.content? = some new) :
    Utf8.encode new = .ok (Utf8.ofText new) := by
  rw [ending, hnew] at h
  obtain ⟨bytes, hbytes, -⟩ := Outcome.map_eq_ok_iff.1 (Outcome.mapError_eq_ok_iff.1 h)
  obtain ⟨-, -, rfl⟩ := Utf8.encode_eq_ok_iff.1 hbytes
  exact hbytes

theorem FileOutcome.ending_of_encode
    (h : ∀ new, o.content? = some new → ∃ bytes, Utf8.encode new = .ok bytes) :
    o.ending dryRun = .ok () := by
  unfold ending
  split
  · next new hnew =>
    obtain ⟨bytes, hbytes⟩ := h new hnew
    rw [hbytes]
    split <;> rfl
  · rfl

theorem FileOutcome.of_ending_error {failure : Failure} (h : o.ending dryRun = .error failure) :
    dryRun = false ∧ ∃ new halves, o.content? = some new ∧ Utf8.encode new = .error halves ∧
      failure = .unencodable halves := by
  unfold ending at h
  split at h
  · next new hnew =>
    split at h
    · cases h
    · next hreal =>
      obtain ⟨halves, hmap, rfl⟩ := Outcome.mapError_eq_error_iff.1 h
      exact ⟨by simpa using hreal, new, halves, hnew, Outcome.map_eq_error_iff.1 hmap, rfl⟩
  · cases h

end Writing

/-- What a file adds to the report of a run, by its name and its bytes. It adds nothing if its new
text cannot be written. -/
def fileShare (context : Fields) (dryRun : Bool) (name : Text) (bytes? : Option Bytes) :
    Except Failure Report := do
  let o ← (FileOutcome.ofBytes bytes? context).mapError .conversion
  o.ending dryRun
  return o.share name

theorem fileShare_eq_ok_iff {context : Fields} {dryRun : Bool} {name : Text}
    {bytes? : Option Bytes} {share : Report} :
    fileShare context dryRun name bytes? = .ok share ↔
      ∃ o, FileOutcome.ofBytes bytes? context = .ok o ∧ o.ending dryRun = .ok () ∧
        o.share name = share := by
  unfold fileShare
  constructor
  · intro h
    obtain ⟨o, ho, h⟩ := Outcome.bind_eq_ok_iff.1 h
    obtain ⟨⟨⟩, hending, hshare⟩ := Outcome.bind_eq_ok_iff.1 h
    exact ⟨o, Outcome.mapError_eq_ok_iff.1 ho, hending, Except.ok.inj hshare⟩
  · rintro ⟨o, ho, hending, rfl⟩
    rw [ho, Except.mapError]
    exact Outcome.bind_eq_ok_iff.2 ⟨o, rfl, Outcome.bind_eq_ok_iff.2 ⟨(), hending, rfl⟩⟩

theorem of_fileShare_eq_error {context : Fields} {dryRun : Bool} {name : Text}
    {bytes? : Option Bytes} {failure : Failure}
    (h : fileShare context dryRun name bytes? = .error failure) :
    (∃ e, FileOutcome.ofBytes bytes? context = .error e ∧ failure = .conversion e) ∨
      ∃ o, FileOutcome.ofBytes bytes? context = .ok o ∧ o.ending dryRun = .error failure := by
  obtain ho | ⟨o, ho, hrest⟩ := Outcome.bind_eq_error_iff.1 h
  · obtain ⟨e, he, rfl⟩ := Outcome.mapError_eq_error_iff.1 ho
    exact .inl ⟨e, he, rfl⟩
  · obtain hending | ⟨⟨⟩, -, hpure⟩ := Outcome.bind_eq_error_iff.1 hrest
    · exact .inr ⟨o, Outcome.mapError_eq_ok_iff.1 ho, hending⟩
    · cases hpure

/-! ## A run over files -/

section Run

variable {top file : Path} {context : Fields} {dryRun : Bool} {disk : Disk} {r : Report}
  {files : List Path} {o : FileOutcome}

/-- The disk behind the turn of one file. -/
def Disk.turned (disk : Disk) (context : Fields) (dryRun : Bool) (p : Path) : Disk :=
  match FileOutcome.ofBytes (disk.bytes? p) context with
  | .error _ => disk
  | .ok o => (o.store dryRun disk p).1

theorem Disk.turned_eq (disk : Disk) (context : Fields) (dryRun : Bool) (p : Path) :
    disk.turned context dryRun p = disk ∨
      ∃ bytes, disk.turned context dryRun p = disk.writeAt p bytes := by
  unfold turned
  split
  · exact .inl rfl
  · next o _ => exact (o.store_eq dryRun disk p).2

theorem Disk.turned_dry (p : Path) : disk.turned context true p = disk := by
  unfold turned FileOutcome.store
  split
  · rfl
  · split <;> rfl

theorem Disk.bytes?_turned_of_ne {p q : Path} (h : q ≠ p) :
    (disk.turned context dryRun p).bytes? q = disk.bytes? q := by
  obtain heq | ⟨bytes, heq⟩ := disk.turned_eq context dryRun p
  · rw [heq]
  · rw [heq, bytes?_writeAt_of_ne h]

theorem Disk.bytes?_turned_self {p : Path}
    (ho : FileOutcome.ofBytes (disk.bytes? p) context = .ok o) (hending : o.ending false = .ok ()) :
    (disk.turned context false p).bytes? p =
      (o.content?.map Utf8.ofText).or (disk.bytes? p) := by
  unfold turned FileOutcome.store
  rw [ho]
  dsimp only
  cases hnew : o.content? with
  | none => rfl
  | some new =>
    dsimp only
    rw [if_neg Bool.false_ne_true, storeAt, FileOutcome.encode_of_ending hending hnew]
    exact bytes?_writeAt_self

theorem Disk.bytes?_turned_of_halves {p : Path} {new : Text} {halves : Utf8.Halves}
    (ho : FileOutcome.ofBytes (disk.bytes? p) context = .ok o) (hnew : o.content? = some new)
    (hhalves : Utf8.encode new = .error halves) :
    (disk.turned context false p).bytes? p = some [] := by
  unfold turned FileOutcome.store
  rw [ho]
  dsimp only
  rw [hnew]
  dsimp only
  rw [if_neg Bool.false_ne_true, storeAt, hhalves]
  exact bytes?_writeAt_self

theorem Disk.paths_turned {p : Path} (h : p ∈ disk.paths) :
    (disk.turned context dryRun p).paths = disk.paths := by
  obtain heq | ⟨bytes, heq⟩ := disk.turned_eq context dryRun p
  · rw [heq]
  · rw [heq, paths_writeAt h]

theorem Disk.folders_turned {p : Path} :
    (disk.turned context dryRun p).folders = disk.folders := by
  obtain heq | ⟨bytes, heq⟩ := disk.turned_eq context dryRun p
  · rw [heq]
  · rw [heq]
    rfl

/-- One file of a run: its share is added, or the run stops. -/
theorem renderFiles_cons :
    renderFiles top context dryRun disk r (file :: files) =
      match fileShare context dryRun (Path.relativeText file) (disk.bytes? (top ++ file)) with
      | .error failure => (disk.turned context dryRun (top ++ file), .error failure)
      | .ok share =>
        renderFiles top context dryRun (disk.turned context dryRun (top ++ file)) (r ++ share)
          files := by
  rw [renderFiles, fileShare, Disk.turned]
  cases FileOutcome.ofBytes (disk.bytes? (top ++ file)) context with
  | error e => rfl
  | ok o =>
    obtain ⟨hending, -⟩ := o.store_eq dryRun disk (top ++ file)
    dsimp only
    cases hstore : o.store dryRun disk (top ++ file) with
    | mk stored result =>
      rw [hstore] at hending
      obtain rfl := hending
      cases hresult : o.ending dryRun with
      | error failure => simp [Except.mapError, bind, Except.bind, hresult]
      | ok =>
        simp only [Except.mapError, bind, Except.bind, pure, Except.pure, hresult]
        rw [Report.add_eq]
        rfl

theorem renderFiles_dry : (renderFiles top context true disk r files).1 = disk := by
  induction files generalizing r with
  | nil => rfl
  | cons file files ih =>
    rw [renderFiles_cons, Disk.turned_dry]
    split
    · rfl
    · exact ih

theorem bytes?_renderFiles_of_notMem {p : Path} (h : ∀ file ∈ files, top ++ file ≠ p) :
    (renderFiles top context dryRun disk r files).1.bytes? p = disk.bytes? p := by
  induction files generalizing disk r with
  | nil => rfl
  | cons file files ih =>
    obtain ⟨hne, h⟩ := List.forall_mem_cons.1 h
    rw [renderFiles_cons]
    split
    · exact Disk.bytes?_turned_of_ne (Ne.symm hne)
    · rw [ih h, Disk.bytes?_turned_of_ne (Ne.symm hne)]

theorem paths_renderFiles (h : ∀ file ∈ files, top ++ file ∈ disk.paths) :
    (renderFiles top context dryRun disk r files).1.paths = disk.paths := by
  induction files generalizing disk r with
  | nil => rfl
  | cons file files ih =>
    obtain ⟨hfile, h⟩ := List.forall_mem_cons.1 h
    have hturned : (disk.turned context dryRun (top ++ file)).paths = disk.paths :=
      Disk.paths_turned hfile
    rw [renderFiles_cons]
    split
    · exact hturned
    · rw [ih (by rwa [hturned]), hturned]

theorem folders_renderFiles :
    (renderFiles top context dryRun disk r files).1.folders = disk.folders := by
  induction files generalizing disk r with
  | nil => rfl
  | cons file files ih =>
    rw [renderFiles_cons]
    split
    · exact Disk.folders_turned
    · rw [ih, Disk.folders_turned]

/-- A write does not change what is still to be read. -/
theorem bytes?_turned_of_mem {other : Path} (h : file ∉ files) (hother : other ∈ files) :
    (disk.turned context dryRun (top ++ file)).bytes? (top ++ other) =
      disk.bytes? (top ++ other) := by
  refine Disk.bytes?_turned_of_ne ?_
  rw [Ne, List.append_cancel_left_eq]
  rintro rfl
  exact h hother

theorem renderFiles_snd (hfiles : files.Nodup) :
    (renderFiles top context dryRun disk r files).2 =
      (files.mapM fun file =>
        fileShare context dryRun (Path.relativeText file) (disk.bytes? (top ++ file))).map
          fun shares => r ++ .sum shares := by
  -- The disk changes on the way, but never at a file that is still to come.
  induction files generalizing disk r with
  | nil =>
    have hr : r ++ Report.sum [] = r := r.append_start_zero
    show Except.ok r = Except.ok (r ++ Report.sum [])
    rw [hr]
  | cons file files ih =>
    obtain ⟨hfile, hfiles⟩ := List.nodup_cons.1 hfiles
    rw [List.mapM_cons, renderFiles_cons]
    cases fileShare context dryRun (Path.relativeText file) (disk.bytes? (top ++ file)) with
    | error failure => rfl
    | ok share =>
      dsimp only
      rw [ih hfiles,
        Outcome.mapM_congr fun other hother => by rw [bytes?_turned_of_mem hfile hother]]
      cases files.mapM fun file =>
          fileShare context dryRun (Path.relativeText file) (disk.bytes? (top ++ file)) with
      | error failure => rfl
      | ok shares => exact congrArg Except.ok (Report.append_assoc _ _ _)

theorem bytes?_renderFiles_of_mem {report : Report} (hfiles : files.Nodup) (hfile : file ∈ files)
    (hreport : (renderFiles top context false disk r files).2 = .ok report)
    (ho : FileOutcome.ofBytes (disk.bytes? (top ++ file)) context = .ok o) :
    (renderFiles top context false disk r files).1.bytes? (top ++ file) =
      (o.content?.map Utf8.ofText).or (disk.bytes? (top ++ file)) := by
  induction files generalizing disk r with
  | nil => cases hfile
  | cons other files ih =>
    obtain ⟨hother, hfiles⟩ := List.nodup_cons.1 hfiles
    rw [renderFiles_cons] at hreport ⊢
    cases hshare : fileShare context false (Path.relativeText other)
        (disk.bytes? (top ++ other)) with
    | error failure =>
      rw [hshare] at hreport
      cases hreport
    | ok share =>
      rw [hshare] at hreport
      dsimp only at hreport ⊢
      obtain rfl | hmem := List.mem_cons.1 hfile
      · obtain ⟨o', ho', hending, -⟩ := fileShare_eq_ok_iff.1 hshare
        obtain rfl : o' = o := Except.ok.inj (ho'.symm.trans ho)
        rw [← Disk.bytes?_turned_self ho hending]
        -- The file has its new bytes now, and no later file is at its place.
        refine bytes?_renderFiles_of_notMem fun file hf he => hother ?_
        rwa [← List.append_cancel_left he]
      · rw [← bytes?_turned_of_mem hother hmem] at ho
        rw [ih hfiles hmem hreport ho, bytes?_turned_of_mem hother hmem]

theorem exists_emptied {halves : Utf8.Halves} (hfiles : files.Nodup)
    (hstop : (renderFiles top context false disk r files).2 = .error (.unencodable halves)) :
    ∃ file ∈ files, ∃ o new, FileOutcome.ofBytes (disk.bytes? (top ++ file)) context = .ok o ∧
      o.content? = some new ∧ Utf8.encode new = .error halves ∧
      (renderFiles top context false disk r files).1.bytes? (top ++ file) = some [] := by
  induction files generalizing disk r with
  | nil => cases hstop
  | cons file files ih =>
    obtain ⟨hfile, hfiles⟩ := List.nodup_cons.1 hfiles
    rw [renderFiles_cons] at hstop ⊢
    cases hshare : fileShare context false (Path.relativeText file)
        (disk.bytes? (top ++ file)) with
    | error failure =>
      rw [hshare] at hstop
      obtain rfl : failure = .unencodable halves := Except.error.inj hstop
      obtain ⟨e, -, he⟩ | ⟨o, ho, hending⟩ := of_fileShare_eq_error hshare
      · cases he
      · obtain ⟨-, new, halves', hnew, hhalves, he⟩ := FileOutcome.of_ending_error hending
        cases he
        exact ⟨file, List.mem_cons_self, o, new, ho, hnew, hhalves,
          Disk.bytes?_turned_of_halves ho hnew hhalves⟩
    | ok share =>
      rw [hshare] at hstop
      obtain ⟨other, hother, o, new, ho, hrest⟩ := ih hfiles hstop
      rw [bytes?_turned_of_mem hfile hother] at ho
      exact ⟨other, List.mem_cons_of_mem file hother, o, new, ho, hrest⟩

end Run

end Stencil
