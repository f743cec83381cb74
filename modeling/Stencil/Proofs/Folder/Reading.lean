import Stencil.Folder
import Stencil.Proofs.Disk

/-!
# Reading files

A file is read as a text exactly if its bytes are one.
-/

namespace Stencil.Disk

open Outcome

variable {disk : Disk} {p q : Path} {fault : Utf8.Fault}

theorem textOf_of_file (hfile : disk.isFileAt q = true) :
    (∃ content, textOf (disk.bytes? q) = .ok content) ∨
      ∃ fault, textOf (disk.bytes? q) = .error (.undecodable fault) := by
  obtain ⟨bytes, hbytes⟩ := Option.isSome_iff_exists.1 hfile
  rw [hbytes, textOf]
  cases Utf8.read bytes with
  | ok content => exact .inl ⟨content, rfl⟩
  | error fault => exact .inr ⟨fault, rfl⟩

theorem readText_of_file (hq : disk.follow [] p = .ok q) (hfile : disk.isFileAt q = true) :
    disk.readText p = textOf (disk.bytes? q) := by
  obtain ⟨bytes, hbytes⟩ := Option.isSome_iff_exists.1 hfile
  have hread : disk.readBytes p = .ok bytes := by
    refine bind_eq_ok_iff.2 ⟨q, hq, ?_⟩
    rw [hbytes]
    rfl
  rw [readText, hread, hbytes]
  rfl

theorem isFolder_of_file (hq : disk.follow [] p = .ok q) (hfile : disk.isFileAt q = true) :
    disk.isFile p = true ∧ disk.isFolder p = false := by
  simp only [isFile, isFolder, hq, isFolderAt, hfile, Bool.not_true, Bool.false_and, and_self]

theorem exists_of_isFolder (h : disk.isFolder p = true) :
    ∃ q, disk.follow [] p = .ok q ∧ disk.isFolderAt q = true := by
  unfold isFolder at h
  split at h
  · next q hq => exact ⟨q, hq, h⟩
  · cases h

theorem exists_of_isFile (h : disk.isFile p = true) :
    ∃ q, disk.follow [] p = .ok q ∧ disk.isFileAt q = true := by
  unfold isFile at h
  split at h
  · next q hq => exact ⟨q, hq, h⟩
  · cases h

theorem readText_eq_error {failure : Failure} (h : disk.readText p = .error failure) :
    (∃ e, failure = .file e) ∨ ∃ fault, failure = .undecodable fault := by
  obtain hread | ⟨bytes, -, hdecode⟩ := bind_eq_error_iff.1 h
  · obtain ⟨e, -, rfl⟩ := mapError_eq_error_iff.1 hread
    exact .inl ⟨e, rfl⟩
  · obtain ⟨fault, -, rfl⟩ := mapError_eq_error_iff.1 hdecode
    exact .inr ⟨fault, rfl⟩

theorem exists_of_undecodable (h : disk.readText p = .error (.undecodable fault)) :
    ∃ q, disk.follow [] p = .ok q ∧ disk.isFileAt q = true := by
  cases hbytes : disk.readBytes p with
  | error e =>
    rw [readText, hbytes] at h
    cases h
  | ok bytes => exact exists_file_of_readBytes hbytes

end Stencil.Disk
