import Mathlib
import Stencil.Proofs.Folder.Places
import Stencil.Proofs.Path.Order
import Stencil.Proofs.Text.LetterCase

/-!
# The search for files

A search finds exactly the files that it is asked for, each once and in order, as if it went through
the folders one inside the other. How extensions are spelled, and in which order they and the
excluded folders are given, makes no difference.
-/

namespace Stencil

/-! ## Entries of folders -/

def Disk.entries (disk : Disk) (top : Path) : List Text :=
  ((disk.paths.filterMap (Selection.below? top)).filterMap List.head?).dedup.mergeSort
    fun s t => !Path.nameLess t s

namespace Selection

variable {selection other : Selection} {disk : Disk} {folder top file rest : Path}
  {name dir e e' : Text}

theorem mem_entries_iff : name ∈ disk.entries top ↔ ∃ rest, top ++ name :: rest ∈ disk.paths := by
  unfold Disk.entries
  rw [List.mem_mergeSort, List.mem_dedup, List.mem_filterMap]
  simp only [List.mem_filterMap, below?_eq_some_iff]
  constructor
  · rintro ⟨file, ⟨p, hp, rfl, -⟩, hhead⟩
    obtain ⟨rest, rfl⟩ := List.head?_eq_some_iff.1 hhead
    exact ⟨rest, hp⟩
  · rintro ⟨rest, hp⟩
    exact ⟨name :: rest, ⟨_, hp, rfl, List.cons_ne_nil _ _⟩, rfl⟩

theorem sortedLT_entries (disk : Disk) (top : Path) : (disk.entries top).SortedLT := by
  apply Path.sortedLT_mergeSort _ (List.nodup_dedup _)
  intro s t
  rw [Bool.not_eq_true', Bool.eq_false_iff, Ne, Path.nameLess_iff, not_lt]

/-! ## Endings -/

/-- A name ends in one of the extensions: what follows its last dot, with something in front of the
dot and behind it, is one of them but for the case of letters. -/
def EndsIn (selection : Selection) (name : Text) : Prop :=
  ∃ stem ending, name = stem ++ chr '.' :: ending ∧ stem ≠ [] ∧ ending ≠ [] ∧ chr '.' ∉ ending ∧
    Text.lower ('.' :: ending) ∈ selection.extensions.map normalize

theorem normalize_ne_nil (e : Text) : normalize e ≠ [] := by
  unfold normalize
  split
  · next h =>
    apply Text.lower_ne_nil
    rintro rfl
    cases h
  · exact List.cons_ne_nil _ _

theorem wants_iff : selection.wants name = true ↔ selection.EndsIn name := by
  rw [wants, List.contains_iff_mem]
  constructor
  · intro h
    rcases Path.suffix_cases name with hnil | ⟨stem, ending, rfl, hstem, hne, hdot⟩
    · obtain ⟨e, -, he⟩ := List.mem_map.1 h
      rw [hnil] at he
      exact absurd he (normalize_ne_nil e)
    · rw [Path.suffix_append hstem hne hdot] at h
      exact ⟨stem, ending, rfl, hstem, hne, hdot, h⟩
  · rintro ⟨stem, ending, rfl, hstem, hne, hdot, h⟩
    rwa [Path.suffix_append hstem hne hdot]

theorem selects_iff : selection.selects file = true ↔
    (∃ name ∈ file.getLast?, selection.EndsIn name) ∧
      ∀ dir ∈ file.dropLast, dir ∉ selection.exclude := by
  simp [selects, ← wants_iff, Option.any_eq_true]

theorem selects_singleton : selection.selects [name] = selection.wants name := by
  simp [selects]

theorem selects_cons (h : rest ≠ []) : selection.selects (name :: rest) = true ↔
    name ∉ selection.exclude ∧ selection.selects rest = true := by
  simp only [selects_iff, List.getLast?_cons_of_ne_nil h, List.dropLast_cons_of_ne_nil h,
    List.forall_mem_cons]
  exact and_left_comm

/-! ## Order -/

theorem sortedLT_find (htree : disk.IsTree) (h : disk.follow [] folder = .ok top) :
    (selection.find disk folder).SortedLT := by
  have hnodup : (selection.find disk folder).Nodup := nodup_find htree h
  unfold find at hnodup ⊢
  rw [h] at hnodup ⊢
  exact Path.sortedLT_mergeSort (fun _ _ => Path.le_iff)
    ((List.mergeSort_perm _ _).nodup_iff.1 hnodup)

theorem find_of_error {error : FileError} (h : disk.follow [] folder = .error error) :
    selection.find disk folder = [] := by
  unfold find
  rw [h]

/-! ## One folder inside the other -/

/-- What the search gives for one name in a folder: a file that is asked for, and, unless the name
is excluded, what is found in a folder of that name. -/
def findAt (selection : Selection) (disk : Disk) (folder top : Path) (name : Text) : List Path :=
  (if disk.isFileAt (top ++ [name]) && selection.wants name then [[name]] else []) ++
    if name ∈ selection.exclude then []
    else (selection.find disk (folder ++ [name])).map (name :: ·)

section Descent

variable (h : disk.IsProper) (hfollow : disk.follow [] folder = .ok top)
  (hname : name ∈ disk.entries top)

include h hfollow hname

theorem follow_entry : disk.follow [] (folder ++ [name]) = .ok (top ++ [name]) := by
  obtain ⟨rest, hmem⟩ := mem_entries_iff.1 hname
  have hfolder := h.isFolderAt_of_append hmem (List.cons_ne_nil name rest)
  have hup : name ≠ Path.up := (h.named _ hmem name (by simp)).2
  rw [Disk.follow_append, hfollow]
  exact Disk.follow_singleton_eq_ok_iff.2 ⟨hfolder, (if_neg (by simpa using hup)).symm⟩

theorem mem_findAt_iff : file ∈ selection.findAt disk folder top name ↔
    file ∈ selection.find disk folder ∧ file.head? = some name := by
  have hentry := follow_entry h hfollow hname
  simp only [findAt, List.mem_append, List.mem_ite_nil_right, List.mem_ite_nil_left,
    List.mem_singleton, List.mem_map, Bool.and_eq_true, Disk.isFileAt_iff, mem_find_iff hentry,
    mem_find_iff hfollow]
  constructor
  · rintro (⟨⟨hfile, hwants⟩, rfl⟩ | ⟨hexclude, rest, ⟨hmem, hne, hselects⟩, rfl⟩)
    · exact ⟨⟨hfile, List.cons_ne_nil _ _, by rwa [selects_singleton]⟩, rfl⟩
    · exact ⟨⟨by simpa using hmem, List.cons_ne_nil _ _, (selects_cons hne).2 ⟨hexclude, hselects⟩⟩,
        rfl⟩
  · rintro ⟨⟨hmem, -, hselects⟩, hhead⟩
    obtain ⟨rest, rfl⟩ := List.head?_eq_some_iff.1 hhead
    by_cases hne : rest = []
    · subst hne
      exact .inl ⟨⟨hmem, by rwa [selects_singleton] at hselects⟩, rfl⟩
    · obtain ⟨hexclude, hselects⟩ := (selects_cons hne).1 hselects
      exact .inr ⟨hexclude, rest, ⟨by simpa using hmem, hne, hselects⟩, rfl⟩

theorem sortedLT_findAt : (selection.findAt disk folder top name).SortedLT := by
  have hentry := follow_entry h hfollow hname
  rw [List.sortedLT_iff_pairwise, findAt, List.pairwise_append]
  refine ⟨?_, ?_, ?_⟩
  · split <;> simp
  · split
    · exact List.Pairwise.nil
    · rw [List.pairwise_map]
      exact (sortedLT_find h.toIsTree hentry).pairwise.imp fun hlt =>
        List.cons_lt_cons_iff.2 (.inr ⟨rfl, hlt⟩)
  · intro p hp q hq
    simp only [List.mem_ite_nil_right, List.mem_ite_nil_left, List.mem_singleton, List.mem_map]
      at hp hq
    obtain ⟨-, rfl⟩ := hp
    obtain ⟨-, rest, hrest, rfl⟩ := hq
    obtain ⟨c, t, rfl⟩ := List.exists_cons_of_ne_nil ((mem_find_iff hentry).1 hrest).2.1
    exact List.cons_lt_cons_iff.2 (.inr ⟨rfl, List.nil_lt_cons _ _⟩)

end Descent

/-- The order of the paths is the one in which folders are gone through, entry by entry. -/
theorem find_eq_flatMap (h : disk.IsProper) (hfollow : disk.follow [] folder = .ok top) :
    selection.find disk folder =
      (disk.entries top).flatMap (selection.findAt disk folder top) := by
  -- Both sides are strictly increasing, so it is enough that they have the same members.
  apply (sortedLT_find h.toIsTree hfollow).eq_of_mem_iff
  · rw [List.sortedLT_iff_pairwise, List.pairwise_flatMap]
    constructor
    · intro name hname
      exact (sortedLT_findAt h hfollow hname).pairwise
    · refine (sortedLT_entries disk top).pairwise.imp_of_mem ?_
      intro name name' hname hname' hlt p hp q hq
      obtain ⟨s, rfl⟩ := List.head?_eq_some_iff.1 ((mem_findAt_iff h hfollow hname).1 hp).2
      obtain ⟨t, rfl⟩ := List.head?_eq_some_iff.1 ((mem_findAt_iff h hfollow hname').1 hq).2
      exact List.cons_lt_cons_iff.2 (.inl hlt)
  · intro file
    rw [List.mem_flatMap]
    constructor
    · intro hfile
      obtain ⟨hmem, hne, -⟩ := (mem_find_iff hfollow).1 hfile
      obtain ⟨name, rest, rfl⟩ := List.exists_cons_of_ne_nil hne
      have hname : name ∈ disk.entries top := mem_entries_iff.2 ⟨rest, hmem⟩
      exact ⟨name, hname, (mem_findAt_iff h hfollow hname).2 ⟨hfile, rfl⟩⟩
    · rintro ⟨name, hname, hfile⟩
      exact ((mem_findAt_iff h hfollow hname).1 hfile).1

/-! ## Ways to ask for the same -/

/-- Two spellings of an extension: its only leading dot may be left out, and the case of Latin
letters is not looked at. -/
inductive Respelled : Text → Text → Prop
  | undotted {e : Text} : e.head? ≠ some (chr '.') → Respelled ('.' :: e) e
  | recased {e e' : Text} : e.map CodePoint.toLower = e'.map CodePoint.toLower → Respelled e e'
  | symm {e e' : Text} : Respelled e e' → Respelled e' e
  | trans {e e' e'' : Text} : Respelled e e' → Respelled e' e'' → Respelled e e''

/-- Two selections have the same extensions but for their spelling, and exclude the same folders;
order and repetitions are not looked at. -/
structure SameAs (selection other : Selection) : Prop where
  extensions : ∀ e ∈ selection.extensions, ∃ e' ∈ other.extensions, Respelled e e'
  extensions' : ∀ e' ∈ other.extensions, ∃ e ∈ selection.extensions, Respelled e e'
  exclude : ∀ dir, dir ∈ selection.exclude ↔ dir ∈ other.exclude

theorem head?_map_toLower (e : Text) :
    ((e.map CodePoint.toLower).head? == some (chr '.')) = (e.head? == some (chr '.')) := by
  cases e with
  | nil => rfl
  | cons c e => exact Text.eq_toLower (f := fun c => some c == some (chr '.')) (by decide) c

theorem Respelled.normalize_eq (h : Respelled e e') : normalize e = normalize e' := by
  induction h with
  | undotted h => simp [normalize, h, Text.lower_dot]
  | @recased e e' h =>
    unfold normalize
    rw [← head?_map_toLower, h, head?_map_toLower, Text.lower_congr h]
  | symm _ ih => exact ih.symm
  | trans _ _ ih ih' => exact ih.trans ih'

theorem SameAs.selects_eq (h : selection.SameAs other) : selection.selects = other.selects := by
  have hextensions : ∀ ending, ending ∈ selection.extensions.map normalize ↔
      ending ∈ other.extensions.map normalize := by
    intro ending
    simp only [List.mem_map]
    constructor
    · rintro ⟨e, he, rfl⟩
      obtain ⟨e', he', hsame⟩ := h.extensions e he
      exact ⟨e', he', hsame.normalize_eq.symm⟩
    · rintro ⟨e', he', rfl⟩
      obtain ⟨e, he, hsame⟩ := h.extensions' e' he'
      exact ⟨e, he, hsame.normalize_eq⟩
  funext file
  rw [Bool.eq_iff_iff]
  simp only [selects_iff, EndsIn, hextensions, h.exclude]

theorem SameAs.find_eq (h : selection.SameAs other) (disk : Disk) (folder : Path) :
    selection.find disk folder = other.find disk folder := by
  unfold find
  rw [h.selects_eq]

theorem find_sublist (htree : disk.IsTree) (exclude : List Text) (folder : Path) :
    (find ⟨selection.extensions, exclude ++ selection.exclude⟩ disk folder).Sublist
      (selection.find disk folder) := by
  cases h : disk.follow [] folder with
  | error error => simp [find_of_error h]
  | ok top =>
    apply List.sublist_of_subperm_of_sortedLE _ (sortedLT_find htree h).sortedLE
      (sortedLT_find htree h).sortedLE
    apply List.subperm_of_subset (nodup_find htree h)
    intro file hfile
    rw [mem_find_iff h, selects_iff] at hfile ⊢
    obtain ⟨hmem, hne, hends, hexclude⟩ := hfile
    refine ⟨hmem, hne, hends, ?_⟩
    intro dir hdir hin
    exact hexclude dir hdir (List.mem_append_right _ hin)

/-! ## What is found -/

/-- The search finds the files below a folder that have one of the extensions and are in no excluded
folder below it, in strictly increasing order of their paths, which is that of a descent through the
folders. It gives the same where the same is asked for, and no more where more is excluded. -/
theorem find_exact (h : disk.IsProper) (selection : Selection) (folder : Path) :
    (∀ file, file ∈ selection.find disk folder ↔
      ∃ top, disk.follow [] folder = .ok top ∧ top ++ file ∈ disk.paths ∧
        (∃ name ∈ file.getLast?, selection.EndsIn name) ∧
        ∀ dir ∈ file.dropLast, dir ∉ selection.exclude) ∧
    (selection.find disk folder).Pairwise (· < ·) ∧
    (∀ top, disk.follow [] folder = .ok top → selection.find disk folder =
      (disk.entries top).flatMap (selection.findAt disk folder top)) ∧
    (∀ other, selection.SameAs other → selection.find disk folder = other.find disk folder) ∧
    ∀ exclude, (find ⟨selection.extensions, exclude ++ selection.exclude⟩ disk folder).Sublist
      (selection.find disk folder) := by
  refine ⟨?_, ?_, fun top => find_eq_flatMap h, fun other hsame => hsame.find_eq disk folder,
    fun exclude => find_sublist h.toIsTree exclude folder⟩
  · intro file
    cases hfollow : disk.follow [] folder with
    | error error => simp [find_of_error hfollow]
    | ok top =>
      rw [mem_find_iff hfollow, selects_iff]
      constructor
      · rintro ⟨hmem, -, hselects⟩
        exact ⟨top, rfl, hmem, hselects⟩
      · rintro ⟨_, heq, hmem, hselects⟩
        obtain rfl := Except.ok.inj heq
        refine ⟨hmem, ?_, hselects⟩
        rintro rfl
        simp at hselects
  · cases hfollow : disk.follow [] folder with
    | error error => simp [find_of_error hfollow]
    | ok top => exact (sortedLT_find h.toIsTree hfollow).pairwise

/-- Folders whose names are in another order than the written paths are, a file with the name of an
excluded folder, and one whose name is nothing but an ending. -/
def shelves : Disk where
  files := [([text "top", text "b-c", text "n.md"], []), ([text "top", text "b", text "z.MD"], []),
    ([text "top", text "b", text "old", text "y.md"], []),
    ([text "top", text "b", text "old.md"], []), ([text "top", text "b", text ".md"], []),
    ([text "old", text "x.md"], [])]
  folders := []

theorem find_exact_shelves :
    shelves.IsProper ∧
    (find ⟨[text ".md"], [text "old", text "old.md"]⟩ shelves [text "top"] =
      [[text "b", text "old.md"], [text "b", text "z.MD"], [text "b-c", text "n.md"]]) ∧
    (find ⟨[text "MD", text "md"], [text "old.md", text "old", text "old"]⟩ shelves [text "top"] =
      find ⟨[text ".md"], [text "old", text "old.md"]⟩ shelves [text "top"]) ∧
    ([text "b", text "old", text "y.md"] ∉
      find ⟨[text ".md"], [text "old", text "old.md"]⟩ shelves [text "top"]) := by
  have h : shelves.IsProper := ⟨⟨by decide, by decide⟩, by decide, by decide⟩
  obtain ⟨hmem, -, hdescent, hsame, -⟩ :=
    find_exact h ⟨[text ".md"], [text "old", text "old.md"]⟩ [text "top"]
  refine ⟨h, ?_, (hsame _ ?_).symm, ?_⟩
  · rw [hdescent [text "top"] rfl]
    cbv
  · have hupper : Respelled (text ".md") (text "MD") :=
      .trans (.undotted (by decide)) (.recased (by decide))
    have hlower : Respelled (text ".md") (text "md") := .undotted (by decide)
    exact ⟨by simpa using .inl hupper, by simpa using ⟨hupper, hlower⟩, by simp; grind⟩
  · rw [hmem]
    rintro ⟨top, -, -, -, hfree⟩
    exact hfree (text "old") (by decide) (by decide)

end Selection

end Stencil
