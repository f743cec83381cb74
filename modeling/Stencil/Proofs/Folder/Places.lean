import Mathlib.Data.List.Nodup
import Stencil.Proofs.Disk
import Stencil.Proofs.Path
import Stencil.Selection

/-!
# Where the selected files are

A run meets a file once, and two files never share a name in a report. The way to a file below a
folder leads through the folder.
-/

namespace Stencil

/-! ## The way to a file -/

namespace Disk

variable {disk : Disk} {here p : Path}

/-- What holds besides of the disk of a machine: names can be written, none of them leads up, and
no file stands inside another one. -/
structure IsProper (disk : Disk) : Prop extends IsTree disk where
  named : ∀ p ∈ disk.paths, ∀ name ∈ p, Path.IsName name ∧ name ≠ Path.up
  apart : ∀ p ∈ disk.paths, ∀ q ∈ disk.paths, p <+: q → p = q

theorem isFileAt_iff : disk.isFileAt p = true ↔ p ∈ disk.paths := by
  rw [isFileAt, bytes?, List.lookup_isSome_iff, paths, List.mem_map]
  constructor
  · rintro ⟨f, hf, hp⟩
    exact ⟨f, hf, (eq_of_beq hp).symm⟩
  · rintro ⟨f, hf, rfl⟩
    exact ⟨f, hf, beq_self_eq_true _⟩

namespace IsProper

theorem isFolderAt_of_append (h : disk.IsProper) (hmem : here ++ p ∈ disk.paths) (hp : p ≠ []) :
    disk.isFolderAt here = true := by
  rw [isFolderAt_iff]
  constructor
  · rw [Bool.eq_false_iff, Ne, isFileAt_iff]
    intro hhere
    have heq := h.apart here hhere _ hmem (List.prefix_append here p)
    exact hp (List.self_eq_append_right.1 heq)
  · refine .inr (.inr (.inl ⟨_, hmem, ?_⟩))
    exact List.isPrefixOf_iff_prefix.2 (List.prefix_append here p)

theorem follow_file (h : disk.IsProper) (hmem : here ++ p ∈ disk.paths) :
    disk.follow here p = .ok (here ++ p) := by
  induction p generalizing here with
  | nil => rw [follow, List.append_nil]
  | cons name p ih =>
    have hup : name ≠ Path.up := (h.named _ hmem name (by simp)).2
    have hfolder := h.isFolderAt_of_append hmem (List.cons_ne_nil name p)
    have hrest : here ++ [name] ++ p ∈ disk.paths := by simpa using hmem
    rw [← List.singleton_append, follow_append, ← List.append_assoc, ← ih hrest,
      follow_singleton_eq_ok_iff.2 ⟨hfolder, (if_neg (by simpa using hup)).symm⟩]
    rfl

end IsProper

end Disk

namespace Selection

variable {selection : Selection} {disk : Disk} {folder top file rest : Path}

theorem below?_eq_some_iff : below? top file = some rest ↔ file = top ++ rest ∧ rest ≠ [] := by
  unfold below?
  constructor
  · intro h
    split at h
    · next hb =>
      rw [Bool.and_eq_true, List.isPrefixOf_iff_prefix, decide_eq_true_eq] at hb
      obtain ⟨⟨back, rfl⟩, hlen⟩ := hb
      rw [List.drop_left, Option.some.injEq] at h
      subst h
      rw [List.length_append] at hlen
      exact ⟨rfl, List.ne_nil_of_length_pos (by omega)⟩
    · cases h
  · rintro ⟨rfl, hne⟩
    have hlen := List.length_pos_of_ne_nil hne
    rw [if_pos, List.drop_left]
    simpa using hlen

/-! ## The selected files -/

theorem find_perm (h : disk.follow [] folder = .ok top) :
    (selection.find disk folder).Perm
      ((disk.paths.filterMap (below? top)).filter selection.selects) := by
  unfold find Disk.paths
  rw [h, List.filterMap_map]
  exact List.mergeSort_perm _ _

theorem mem_find_iff (h : disk.follow [] folder = .ok top) :
    file ∈ selection.find disk folder ↔
      top ++ file ∈ disk.paths ∧ file ≠ [] ∧ selection.selects file = true := by
  rw [(find_perm h).mem_iff, List.mem_filter, List.mem_filterMap]
  simp only [below?_eq_some_iff]
  constructor
  · rintro ⟨⟨p, hp, rfl, hne⟩, hs⟩
    exact ⟨hp, hne, hs⟩
  · rintro ⟨hp, hne, hs⟩
    exact ⟨⟨_, hp, rfl, hne⟩, hs⟩

theorem nodup_find (htree : disk.IsTree) (h : disk.follow [] folder = .ok top) :
    (selection.find disk folder).Nodup := by
  rw [(find_perm h).nodup_iff]
  refine List.Nodup.filter _ (List.Nodup.filterMap ?_ htree.nodup)
  intro p q file hp hq
  rw [(below?_eq_some_iff.1 hp).1, (below?_eq_some_iff.1 hq).1]

/-- The selected files below a folder in order, each with its name in reports and its place on
the disk. -/
def places (selection : Selection) (disk : Disk) (folder : Path) : List (Text × Path) :=
  match disk.follow [] folder with
  | .error _ => []
  | .ok top => (selection.find disk folder).map fun file => (Path.relativeText file, top ++ file)

theorem places_of_error {e : FileError} (h : disk.follow [] folder = .error e) :
    selection.places disk folder = [] := by
  unfold places
  rw [h]

theorem places_of_ok (h : disk.follow [] folder = .ok top) :
    selection.places disk folder =
      (selection.find disk folder).map fun file => (Path.relativeText file, top ++ file) := by
  unfold places
  rw [h]

theorem nodup_places_name (htree : disk.IsTree) :
    ((selection.places disk folder).map Prod.fst).Nodup := by
  cases h : disk.follow [] folder with
  | error e =>
    rw [places_of_error h]
    exact List.nodup_nil
  | ok top =>
    rw [places_of_ok h, List.map_map]
    refine List.Nodup.map_on ?_ (nodup_find htree h)
    intro file hfile file' hfile' hname
    obtain ⟨hp, hne, -⟩ := (mem_find_iff h).1 hfile
    obtain ⟨hp', hne', -⟩ := (mem_find_iff h).1 hfile'
    refine Path.relativeText_inj hne hne' ?_ ?_ hname
    · exact fun name hmem => htree.slashless _ hp name (List.mem_append_right _ hmem)
    · exact fun name hmem => htree.slashless _ hp' name (List.mem_append_right _ hmem)

end Selection

end Stencil
