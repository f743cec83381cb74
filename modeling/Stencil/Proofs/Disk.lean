import Mathlib.Data.List.Nodup
import Stencil.Disk
import Stencil.Proofs.Outcome

/-!
# Files after a write

A write gives one file new bytes and leaves every other file as it is. A path that leads to a file
leads there after the write too, and the bytes that were written are read there.
-/

namespace Stencil.Disk

open Outcome

variable {disk : Disk} {p q : Path} {bytes : Bytes} {files : List (Path × Bytes)}

def paths (disk : Disk) : List Path := disk.files.map Prod.fst

/-- What holds of the disk of a machine: a file is there once, and no name has a slash in it. -/
structure IsTree (disk : Disk) : Prop where
  nodup : disk.paths.Nodup
  slashless : ∀ p ∈ disk.paths, ∀ name ∈ p, chr '/' ∉ name

/-! ## One write -/

theorem lookup_cons_of_ne {old : Bytes} (h : q ≠ p) :
    ((p, old) :: files).lookup q = files.lookup q := by
  rw [List.lookup_cons, beq_false_of_ne h]

theorem lookup_setBytes_self : (setBytes p bytes files).lookup p = some bytes := by
  induction files with
  | nil => exact List.lookup_cons_self
  | cons f files ih =>
    obtain ⟨q, old⟩ := f
    unfold setBytes
    split
    · exact List.lookup_cons_self
    · next h =>
      have hp : p ≠ q := fun he => h (by simp [he])
      rw [lookup_cons_of_ne hp, ih]

theorem lookup_setBytes_of_ne (hq : q ≠ p) :
    (setBytes p bytes files).lookup q = files.lookup q := by
  induction files with
  | nil => exact lookup_cons_of_ne hq
  | cons f files ih =>
    obtain ⟨q', old⟩ := f
    unfold setBytes
    split
    · next h =>
      obtain rfl : q' = p := by simpa using h
      rw [lookup_cons_of_ne hq, lookup_cons_of_ne hq]
    · rw [List.lookup_cons, List.lookup_cons, ih]

theorem map_fst_setBytes (h : p ∈ files.map Prod.fst) :
    (setBytes p bytes files).map Prod.fst = files.map Prod.fst := by
  induction files with
  | nil => cases h
  | cons f files ih =>
    by_cases hf : f.1 = p
    · simp [setBytes, hf]
    · have hp : p ∈ files.map Prod.fst := by simpa [Ne.symm hf] using h
      simp [setBytes, hf, ih hp]

@[simp]
theorem bytes?_writeAt_self : (disk.writeAt p bytes).bytes? p = some bytes :=
  lookup_setBytes_self

theorem bytes?_writeAt_of_ne (h : q ≠ p) : (disk.writeAt p bytes).bytes? q = disk.bytes? q :=
  lookup_setBytes_of_ne h

theorem paths_writeAt (h : p ∈ disk.paths) : (disk.writeAt p bytes).paths = disk.paths :=
  map_fst_setBytes h

/-! ## Following paths -/

variable {here there : Path} {other made : Disk}

theorem follow_append :
    disk.follow here (p ++ q) = disk.follow here p >>= fun there => disk.follow there q := by
  induction p generalizing here with
  | nil => rfl
  | cons name p ih =>
    rw [List.cons_append, follow, follow, ih]
    split
    · rfl
    · split <;> rfl

theorem follow_singleton_eq_ok_iff {name : Text} :
    disk.follow here [name] = .ok there ↔
      disk.isFolderAt here = true ∧
        there = if name == Path.up then here.dropLast else here ++ [name] := by
  have hfile : disk.isFolderAt here = true → disk.isFileAt here = false := by
    intro hfolder
    rw [isFolderAt, Bool.and_eq_true, Bool.not_eq_true'] at hfolder
    exact hfolder.1
  unfold follow
  cases hfolder : disk.isFolderAt here with
  | false => split <;> simp
  | true =>
    rw [hfile hfolder, if_neg Bool.false_ne_true, Bool.not_true, if_neg Bool.false_ne_true, follow,
      Except.ok.injEq]
    constructor
    · rintro rfl
      exact ⟨rfl, rfl⟩
    · rintro ⟨-, rfl⟩
      rfl

theorem isFolder_of_follow {name : Text} (h : disk.follow [] (p ++ [name]) = .ok q) :
    disk.isFolder p = true := by
  rw [follow_append, bind_eq_ok_iff] at h
  obtain ⟨folder, hfolder, hname⟩ := h
  rw [isFolder, hfolder]
  exact (follow_singleton_eq_ok_iff.1 hname).1

theorem exists_follow_of_isFolder {name : Text} (hname : (name == Path.up) = false)
    (h : disk.isFolder p = true) :
    ∃ folder, disk.follow [] p = .ok folder ∧
      disk.follow [] (p ++ [name]) = .ok (folder ++ [name]) := by
  unfold isFolder at h
  split at h
  · next folder hfolder =>
    refine ⟨folder, hfolder, ?_⟩
    rw [follow_append, hfolder]
    exact follow_singleton_eq_ok_iff.2 ⟨h, by rw [hname]; rfl⟩
  · cases h

/-! ## Folders after a write -/

theorem isFileAt_writeAt_of_ne (h : p ≠ q) :
    (disk.writeAt q bytes).isFileAt p = disk.isFileAt p := by
  rw [isFileAt, isFileAt, bytes?_writeAt_of_ne h]

theorem mem_paths_writeAt : p ∈ (disk.writeAt q bytes).paths ↔ p = q ∨ p ∈ disk.paths := by
  unfold paths writeAt
  generalize disk.files = files
  induction files with
  | nil => simp [setBytes]
  | cons f files ih =>
    unfold setBytes
    split
    · next hf =>
      obtain rfl := eq_of_beq hf
      simp
    · simp [ih, or_left_comm]

theorem isFolderAt_iff :
    disk.isFolderAt p = true ↔ disk.isFileAt p = false ∧
      (p = [] ∨ p ∈ disk.folders ∨ (∃ f ∈ disk.paths, p.isPrefixOf f = true) ∨
        ∃ f ∈ disk.folders, p.isPrefixOf f = true) := by
  simp [isFolderAt, paths, or_assoc]

theorem isFolderAt_writeAt (h : disk.isFolderAt p = true) (hp : p ≠ q) :
    (disk.writeAt q bytes).isFolderAt p = true := by
  rw [isFolderAt_iff] at h ⊢
  rw [isFileAt_writeAt_of_ne hp]
  refine ⟨h.1, h.2.imp_right (Or.imp_right (Or.imp_left ?_))⟩
  rintro ⟨f, hf, hprefix⟩
  exact ⟨f, mem_paths_writeAt.2 (.inr hf), hprefix⟩

theorem follow_writeAt (hq : disk.isFolderAt q = false) (h : disk.follow here p = .ok there) :
    (disk.writeAt q bytes).follow here p = .ok there := by
  induction p generalizing here with
  | nil => exact h
  | cons name p ih =>
    rw [← List.singleton_append, follow_append, bind_eq_ok_iff] at h ⊢
    obtain ⟨next, hnext, hrest⟩ := h
    obtain ⟨hfolder, rfl⟩ := follow_singleton_eq_ok_iff.1 hnext
    have hne : here ≠ q := by
      rintro rfl
      rw [hq] at hfolder
      cases hfolder
    exact ⟨_, follow_singleton_eq_ok_iff.2 ⟨isFolderAt_writeAt hfolder hne, rfl⟩, ih hrest⟩

/-! ## Reading what was written -/

theorem exists_file_of_readBytes (h : disk.readBytes p = .ok bytes) :
    ∃ q, disk.follow [] p = .ok q ∧ disk.isFileAt q = true := by
  obtain ⟨q, hq, hbytes⟩ := bind_eq_ok_iff.1 h
  refine ⟨q, hq, ?_⟩
  split at hbytes
  · next found hfound => rw [isFileAt, hfound, Option.isSome_some]
  · cases hbytes

theorem not_isFolderAt_of_not_isThere (hp : disk.follow [] p = .ok q)
    (h : disk.isThere p = false) : disk.isFolderAt q = false := by
  rw [isThere, Bool.or_eq_false_iff, isFolder, hp] at h
  exact h.2

theorem read_of_write (hp : disk.follow [] p = .ok q) (hq : disk.isFolderAt q = false) :
    (disk.writeAt q bytes).isThere p = true ∧
      (disk.writeAt q bytes).readBytes p = .ok bytes := by
  have hfollow : (disk.writeAt q bytes).follow [] p = .ok q := follow_writeAt hq hp
  refine ⟨?_, ?_⟩
  · simp [isThere, isFile, hfollow, isFileAt]
  · refine bind_eq_ok_iff.2 ⟨q, hfollow, ?_⟩
    rw [bytes?_writeAt_self]
    rfl

/-! ## Beside what was written -/

theorem isFolderAt_writeAt_beside (h : ¬ p <+: q) :
    (disk.writeAt q bytes).isFolderAt p = disk.isFolderAt p := by
  have hne : p ≠ q := fun he => h (he ▸ List.prefix_refl p)
  rw [Bool.eq_iff_iff]
  refine ⟨fun hfolder => ?_, fun hfolder => isFolderAt_writeAt hfolder hne⟩
  rw [isFolderAt_iff, isFileAt_writeAt_of_ne hne] at hfolder
  refine isFolderAt_iff.2 ⟨hfolder.1, hfolder.2.imp_right (Or.imp_right (Or.imp_left ?_))⟩
  rintro ⟨f, hf, hprefix⟩
  obtain rfl | hf := mem_paths_writeAt.1 hf
  · exact absurd (List.isPrefixOf_iff_prefix.1 hprefix) h
  · exact ⟨f, hf, hprefix⟩

theorem same_beside (hq : disk.isFolderAt q = false) (hp : disk.follow [] p = .ok there)
    (h : ¬ there <+: q) :
    (disk.writeAt q bytes).isThere p = disk.isThere p ∧
      (disk.writeAt q bytes).readBytes p = disk.readBytes p := by
  have hne : there ≠ q := fun he => h (he ▸ List.prefix_refl there)
  have hafter : (disk.writeAt q bytes).follow [] p = .ok there := follow_writeAt hq hp
  have hfolder := @isFolderAt_writeAt_beside disk there q bytes h
  constructor
  · simp only [isThere, isFile, isFolder, hp, hafter, hfolder, isFileAt_writeAt_of_ne hne]
  · simp only [readBytes, hp, hafter, bind, Except.bind, bytes?_writeAt_of_ne hne, hfolder]

theorem exists_follow_beside {name other : Text} (hname : (name == Path.up) = false)
    (hother : (other == Path.up) = false) (h : disk.follow [] (p ++ [name]) = .ok q) :
    ∃ folder, q = folder ++ [name] ∧ disk.follow [] (p ++ [other]) = .ok (folder ++ [other]) := by
  have hfolder := isFolder_of_follow h
  obtain ⟨folder, hfollow, hq⟩ := exists_follow_of_isFolder hname hfolder
  obtain ⟨folder', hfollow', hbeside⟩ := exists_follow_of_isFolder hother hfolder
  obtain rfl := Except.ok.inj (hfollow.symm.trans hfollow')
  exact ⟨folder, Except.ok.inj (h.symm.trans hq), hbeside⟩

/-! ## Making folders -/

theorem isFolderAt_of_subset (hfiles : other.files = disk.files)
    (hfolders : disk.folders ⊆ other.folders) (h : disk.isFolderAt p = true) :
    other.isFolderAt p = true := by
  rw [isFolderAt_iff] at h ⊢
  have hfile : other.isFileAt p = disk.isFileAt p := by
    rw [isFileAt, isFileAt, bytes?, bytes?, hfiles]
  have hpaths : other.paths = disk.paths := congrArg (List.map Prod.fst) hfiles
  rw [hfile, hpaths]
  refine ⟨h.1, h.2.imp_right (Or.imp (@hfolders p) (Or.imp_right ?_))⟩
  rintro ⟨f, hf, hprefix⟩
  exact ⟨f, hfolders hf, hprefix⟩

theorem isFolderAt_addFolder (h : disk.isFileAt p = false) :
    (disk.addFolder p).isFolderAt p = true :=
  isFolderAt_iff.2 ⟨h, .inr (.inl (List.mem_append_right _ (List.mem_singleton.2 rfl)))⟩

theorem makeFolders_eq_ok (h : disk.makeFolders here p = .ok made) :
    made.files = disk.files ∧ disk.folders ⊆ made.folders ∧
      ∃ there, made.follow here p = .ok there ∧ made.isFolderAt there = true := by
  induction p generalizing disk here with
  | nil =>
    unfold makeFolders at h
    split at h
    · cases h
    · next hfile =>
      obtain rfl := Except.ok.inj h
      exact ⟨rfl, List.subset_append_left _ _, here, rfl,
        isFolderAt_addFolder (Bool.eq_false_iff.2 hfile)⟩
  | cons name p ih =>
    unfold makeFolders at h
    split at h
    · cases h
    · next hfile =>
      generalize hstart : (if disk.isFolderAt here then disk else disk.addFolder here) = start at h
      -- The folder that the path starts in is there already, or made first.
      have hhere : start.files = disk.files ∧ disk.folders ⊆ start.folders ∧
          start.isFolderAt here = true := by
        subst hstart
        split
        · next hfolder => exact ⟨rfl, List.Subset.refl _, hfolder⟩
        · exact ⟨rfl, List.subset_append_left _ _, isFolderAt_addFolder (Bool.eq_false_iff.2 hfile)⟩
      obtain ⟨hfiles, hfolders, there, hfollow, hthere⟩ := ih h
      refine ⟨hfiles.trans hhere.1, List.Subset.trans hhere.2.1 hfolders, there, ?_, hthere⟩
      have hfolder := isFolderAt_of_subset hfiles hfolders hhere.2.2
      rw [← List.singleton_append, follow_append, bind_eq_ok_iff]
      exact ⟨_, follow_singleton_eq_ok_iff.2 ⟨hfolder, rfl⟩, hfollow⟩

/-! ## What was there before folders were made -/

theorem follow_eq_ok (hp : Path.up ∉ p) (h : disk.follow here p = .ok there) :
    there = here ++ p := by
  induction p generalizing here with
  | nil => simpa [follow] using h.symm
  | cons name p ih =>
    obtain ⟨hname, hrest⟩ := not_or.1 (List.mem_cons.not.1 hp)
    rw [← List.singleton_append, follow_append, bind_eq_ok_iff] at h
    obtain ⟨next, hnext, hfollow⟩ := h
    obtain ⟨-, rfl⟩ := follow_singleton_eq_ok_iff.1 hnext
    rw [ih hrest hfollow, if_neg (by simpa using Ne.symm hname)]
    simp

theorem mem_folders_makeFolders (hp : Path.up ∉ p) (h : disk.makeFolders here p = .ok made)
    {f : Path} (hf : f ∈ made.folders) : f ∈ disk.folders ∨ f <+: here ++ p := by
  induction p generalizing disk here with
  | nil =>
    unfold makeFolders at h
    split at h
    · cases h
    · obtain rfl := Except.ok.inj h
      obtain hmem | hmem := List.mem_append.1 hf
      · exact .inl hmem
      · obtain rfl := List.mem_singleton.1 hmem
        exact .inr (List.prefix_append f [])
  | cons name p ih =>
    obtain ⟨hname, hrest⟩ := not_or.1 (List.mem_cons.not.1 hp)
    have hnext : (if name == Path.up then here.dropLast else here ++ [name]) = here ++ [name] :=
      if_neg (by simpa using Ne.symm hname)
    unfold makeFolders at h
    split at h
    · cases h
    · rw [hnext] at h
      obtain hmem | hprefix := ih hrest h
      · split at hmem
        · exact .inl hmem
        · obtain hmem | hmem := List.mem_append.1 hmem
          · exact .inl hmem
          · obtain rfl := List.mem_singleton.1 hmem
            exact .inr (List.prefix_append f (name :: p))
      · exact .inr (by simpa using hprefix)

theorem isFileAt_makeFolders (h : disk.makeFolders here p = .ok made) :
    made.isFileAt q = disk.isFileAt q := by
  rw [isFileAt, isFileAt, bytes?, bytes?, (makeFolders_eq_ok h).1]

/-- A path that is followed when folders were made is followed before, if all its folders have
something below it. -/
theorem follow_of_makeFolders {start : Path} (h : disk.makeFolders start q = .ok made)
    (hp : Path.up ∉ p)
    (hbelow : ∀ r, r <+: here ++ p → disk.isFileAt r = false → disk.isFolderAt r = true)
    (hfollow : made.follow here p = .ok there) : disk.follow here p = .ok there := by
  induction p generalizing here with
  | nil => exact hfollow
  | cons name p ih =>
    obtain ⟨hname, hrest⟩ := not_or.1 (List.mem_cons.not.1 hp)
    rw [← List.singleton_append, follow_append, bind_eq_ok_iff] at hfollow ⊢
    obtain ⟨next, hnext, hfollow⟩ := hfollow
    obtain ⟨hfolder, hplace⟩ := follow_singleton_eq_ok_iff.1 hnext
    have hnot : disk.isFileAt here = false := by
      rw [← isFileAt_makeFolders h]
      exact (isFolderAt_iff.1 hfolder).1
    have heq : next = here ++ [name] := by
      rw [hplace, if_neg (by simpa using Ne.symm hname)]
    refine ⟨next, follow_singleton_eq_ok_iff.2 ⟨?_, hplace⟩, ih hrest ?_ hfollow⟩
    · exact hbelow here (List.prefix_append here _) hnot
    · intro r hr
      exact hbelow r (by simpa [heq] using hr)

/-- What is further down than the folders that are made was there before, or something below it
was. -/
theorem exists_below_of_makeFolders (hp : Path.up ∉ p) (h : disk.makeFolders [] p = .ok made)
    (hlong : p.length < q.length) (hq : made.isFileAt q = true ∨ made.isFolderAt q = true) :
    ∃ f, q <+: f ∧ (f ∈ disk.paths ∨ f ∈ disk.folders) := by
  have hpaths : made.paths = disk.paths := congrArg (List.map Prod.fst) (makeFolders_eq_ok h).1
  have hfolders : ∀ f, q <+: f → f ∈ made.folders → f ∈ disk.folders := by
    intro f hf hmem
    refine (mem_folders_makeFolders hp h hmem).resolve_right fun hprefix => ?_
    exact absurd (hf.trans hprefix).length_le (Nat.not_le.2 hlong)
  obtain hfile | hfolder := hq
  · rw [isFileAt, bytes?, List.lookup_isSome_iff] at hfile
    obtain ⟨f, hf, heq⟩ := hfile
    obtain rfl := eq_of_beq heq
    refine ⟨f.1, List.prefix_refl _, .inl ?_⟩
    rw [← hpaths]
    exact List.mem_map_of_mem hf
  · obtain ⟨-, rfl | hmem | ⟨f, hf, hprefix⟩ | ⟨f, hf, hprefix⟩⟩ := isFolderAt_iff.1 hfolder
    · cases hlong
    · exact ⟨_, List.prefix_refl _, .inr (hfolders _ (List.prefix_refl _) hmem)⟩
    · exact ⟨f, List.isPrefixOf_iff_prefix.1 hprefix, .inl (hpaths ▸ hf)⟩
    · have hprefix := List.isPrefixOf_iff_prefix.1 hprefix
      exact ⟨f, hprefix, .inr (hfolders f hprefix hf)⟩

theorem isThere_makeFolders {name : Text} (hp : Path.up ∉ p ++ [name])
    (hmissing : disk.isFolder p = false) (h : disk.makeFolders [] p = .ok made) :
    made.isThere (p ++ [name]) = false := by
  have hup : Path.up ∉ p := fun hmem => hp (List.mem_append_left _ hmem)
  rw [Bool.eq_false_iff]
  intro hthere
  obtain ⟨q, hq, hwhat⟩ : ∃ q, made.follow [] (p ++ [name]) = .ok q ∧
      (made.isFileAt q = true ∨ made.isFolderAt q = true) := by
    cases hq : made.follow [] (p ++ [name]) with
    | error e => simp [isThere, isFile, isFolder, hq] at hthere
    | ok q => exact ⟨q, rfl, by simpa [isThere, isFile, isFolder, hq] using hthere⟩
  have heq := follow_eq_ok hp hq
  rw [List.nil_append] at heq
  subst heq
  obtain ⟨f, hf, hmem⟩ := exists_below_of_makeFolders hup h (by simp) hwhat
  rw [follow_append, bind_eq_ok_iff] at hq
  obtain ⟨folder, hmade, hlast⟩ := hq
  obtain rfl : folder = p := follow_eq_ok hup hmade
  -- So the path led to a folder at first, as long as no file is on the way, and none is now.
  have hbelow : ∀ r, r <+: folder → disk.isFileAt r = false → disk.isFolderAt r = true := by
    intro r hr hnot
    have hprefix : r.isPrefixOf f = true := List.isPrefixOf_iff_prefix.2
      (hr.trans ((List.prefix_append folder [name]).trans hf))
    exact isFolderAt_iff.2 ⟨hnot, hmem.elim (fun hpath => .inr (.inr (.inl ⟨f, hpath, hprefix⟩)))
      fun hmade => .inr (.inr (.inr ⟨f, hmade, hprefix⟩))⟩
  have hnot : disk.isFileAt folder = false := by
    rw [← isFileAt_makeFolders h]
    exact (isFolderAt_iff.1 (follow_singleton_eq_ok_iff.1 hlast).1).1
  have hfollow : disk.follow [] folder = .ok folder := follow_of_makeFolders h hup hbelow hmade
  rw [isFolder, hfollow] at hmissing
  exact absurd (hbelow folder (List.prefix_refl folder) hnot) (Bool.eq_false_iff.1 hmissing)

end Stencil.Disk
