import Stencil.Proofs.Folder.Run
import Stencil.Proofs.Template.QuickCheck

/-!
# Checking and rendering agree

The check of a folder needs no context and looks at every selected file; a run skips the files that
its quick check finds no marker in. Both find errors in the same files.
-/

namespace Stencil

/-! ## The two lists of files -/

variable {disk : Disk} {folder : Path} {context : Fields} {selection : Selection} {p : Path}
  {o : FileOutcome}

theorem isRefused_eq (ho : FileOutcome.ofBytes (disk.bytes? p) context = .ok o) :
    o.isRefused = !(fileErrors disk p).isEmpty := by
  unfold FileOutcome.ofBytes at ho
  unfold fileErrors
  split at ho
  · cases ho
    rfl
  · next old _ =>
    obtain ⟨hm, rfl⟩ | ⟨r, -, -, ⟨he, rfl⟩ | ⟨he, rfl⟩⟩ := FileOutcome.ofText_cases ho
    · -- The run skips the file, so the check must not find anything in it either.
      have he : templateErrors old = [] := by
        by_contra he
        rw [hasMarker_of_templateErrors he] at hm
        cases hm
      rw [he]
      rfl
    · obtain ⟨e, es, hes⟩ := List.exists_cons_of_ne_nil he
      rw [hes]
      rfl
    · rw [he]
      rfl

theorem map_fst_folderErrors :
    (folderErrors disk folder selection).map Prod.fst =
      ((selection.places disk folder).filter fun place =>
        !(fileErrors disk place.2).isEmpty).map Prod.fst := by
  cases h : disk.follow [] folder with
  | error e =>
    unfold folderErrors
    rw [h, Selection.places_of_error h]
    rfl
  | ok top =>
    unfold folderErrors
    rw [h, Selection.places_of_ok h]
    generalize selection.find disk folder = files
    induction files with
    | nil => rfl
    | cons file files ih =>
      simp only [List.filterMap_cons, List.map_cons, List.filter_cons]
      cases (fileErrors disk (top ++ file)).isEmpty with
      | true => exact ih
      | false => exact congrArg (Path.relativeText file :: ·) ih

/-- Checking a folder names the files that a run over it lists with errors, in the same order. -/
theorem folderErrors_agree (disk : Disk) (folder : Path) (selection : Selection)
    (htree : disk.IsTree) :
    (∀ context dryRun report,
      (renderFolder disk folder context selection dryRun).2 = .ok report →
        (folderErrors disk folder selection).map Prod.fst = report.filesWithErrors) ∧
    (folderErrors disk folder selection = [] → ∀ context dryRun report,
      (renderFolder disk folder context selection dryRun).2 = .ok report →
        report.filesWithErrors = []) ∧
    ∀ content, templateErrors content ≠ [] → hasMarker content = true := by
  have hagree : ∀ context dryRun report,
      (renderFolder disk folder context selection dryRun).2 = .ok report →
        (folderErrors disk folder selection).map Prod.fst = report.filesWithErrors := by
    intro context dryRun report hreport
    obtain ⟨houtcome, herrors, -⟩ := renderFolder_listed htree hreport
    rw [map_fst_folderErrors, herrors]
    congr 1
    refine List.filter_congr fun place hplace => ?_
    obtain ⟨o, ho, -⟩ := houtcome place hplace
    rw [Disk.outcomeIs_eq ho, isRefused_eq ho]
  refine ⟨hagree, ?_, fun content => hasMarker_of_templateErrors⟩
  intro hnil context dryRun report hreport
  rw [← hagree context dryRun report hreport, hnil, List.map_nil]

theorem folderErrors_agree_notes :
    Disk.notes.IsTree ∧ ∃ report,
      (renderFolder .notes [] [(text "n", .str (text "Bo"))] .standard true).2 = .ok report ∧
      (folderErrors .notes [] .standard).map Prod.fst = report.filesWithErrors := by
  obtain ⟨hagree, -, -⟩ := folderErrors_agree .notes [] .standard Disk.isTree_notes
  obtain ⟨report, hreport⟩ := exists_report Disk.isTree_notes Disk.renders_notes
  exact ⟨Disk.isTree_notes, report, hreport, hagree _ _ _ hreport⟩

end Stencil
