import Mathlib
import Stencil.Proofs.Folder.Places
import Stencil.Proofs.Folder.Reading
import Stencil.Proofs.Text.Encoding

/-!
# One file rendered in place

A file is written if a directive was met in it. What is written has uniform line ends, so that the
bytes of a file with other line ends can change where its text does not.
-/

namespace Stencil

open Outcome

/-! ## Line ends -/

namespace Text

theorem carriageReturn_not_mem_normalizeLineEnds (s : Text) : chr '\r' ∉ normalizeLineEnds s := by
  fun_induction normalizeLineEnds s with
  | case1 => simp
  | case2 s ih => simpa using ih
  | case3 s _ ih => simpa using ih
  | case4 c s _ hc ih => simpa using ⟨Ne.symm hc, ih⟩

theorem normalizeLineEnds_eq_self_iff {s : Text} : normalizeLineEnds s = s ↔ chr '\r' ∉ s := by
  constructor
  · intro h
    rw [← h]
    exact carriageReturn_not_mem_normalizeLineEnds s
  · intro h
    fun_induction normalizeLineEnds s with
    | case1 => rfl
    | case2 => simp at h
    | case3 => simp at h
    | case4 c s _ _ ih => rw [ih (List.not_mem_of_not_mem_cons h)]

end Text

/-! ## The file and the disk around it -/

variable {disk : Disk} {p q : Path} {bytes : Bytes} {raw : Text} {context : Fields} {r : Rendered}

theorem Disk.readText_of_decode (hq : disk.follow [] p = .ok q)
    (hbytes : disk.bytes? q = some bytes) (hraw : Utf8.decode bytes = .ok raw) :
    disk.readText p = .ok (Text.normalizeLineEnds raw) := by
  have hfile : disk.isFileAt q = true := by rw [isFileAt, hbytes, Option.isSome_some]
  rw [readText_of_file hq hfile, hbytes, textOf, Utf8.read, hraw]
  rfl

theorem Disk.rendered_of_decode (hq : disk.follow [] p = .ok q)
    (hbytes : disk.bytes? q = some bytes) (hraw : Utf8.decode bytes = .ok raw)
    (hr : render (Text.normalizeLineEnds raw) context = .ok r) :
    disk.rendered p context = .ok r :=
  bind_eq_ok_iff.2 ⟨_, readText_of_decode hq hbytes hraw, mapError_eq_ok_iff.2 hr⟩

/-- A rendering in place leaves the disk as it is, or writes the new text, or stops at half of a
surrogate pair in it. -/
theorem renderFile_cases (hq : disk.follow [] p = .ok q) (hr : disk.rendered p context = .ok r) :
    (r.modified && r.isOk) = false ∧ renderFile disk p context false = (disk, .ok r) ∨
    (r.modified && r.isOk) = true ∧
      ((∃ new, Utf8.encode r.content = .ok new ∧
          renderFile disk p context false = (disk.writeAt q new, .ok r)) ∨
        ∃ halves, Utf8.encode r.content = .error halves ∧
          renderFile disk p context false =
            (disk.writeAt q [], .error (.unencodable halves))) := by
  unfold renderFile
  rw [hr]
  dsimp only
  rw [Bool.not_false, Bool.and_true]
  cases hguard : r.modified && r.isOk with
  | false => exact .inl ⟨rfl, rfl⟩
  | true =>
    rw [if_pos rfl, Disk.writeText, hq]
    dsimp only
    rw [Disk.storeAt]
    cases hnew : Utf8.encode r.content with
    | ok new => exact .inr ⟨rfl, .inl ⟨new, rfl, rfl⟩⟩
    | error halves => exact .inr ⟨rfl, .inr ⟨halves, rfl, rfl⟩⟩

theorem ne_nil_of_modified (hraw : Utf8.decode bytes = .ok raw)
    (hr : render (Text.normalizeLineEnds raw) context = .ok r) (hmodified : r.modified = true) :
    bytes ≠ [] := by
  rintro rfl
  obtain rfl := Except.ok.inj hraw
  have hempty : render (Text.normalizeLineEnds []) context = .ok ⟨[], false, 0, [], []⟩ := by
    cbv
  obtain rfl := Except.ok.inj (hempty.symm.trans hr)
  cases hmodified

theorem Disk.writeAt_over (hbytes : disk.bytes? q = some bytes) (new : Bytes) :
    (∀ other, other ≠ q → (disk.writeAt q new).bytes? other = disk.bytes? other) ∧
      (disk.writeAt q new).paths = disk.paths ∧ (disk.writeAt q new).folders = disk.folders ∧
      ((disk.writeAt q new).bytes? q ≠ disk.bytes? q ↔ new ≠ bytes) := by
  have hpath : q ∈ disk.paths := by
    rw [← Disk.isFileAt_iff, Disk.isFileAt, hbytes, Option.isSome_some]
  refine ⟨fun other hother => Disk.bytes?_writeAt_of_ne hother, Disk.paths_writeAt hpath, rfl, ?_⟩
  rw [Disk.bytes?_writeAt_self, hbytes, Ne, Option.some.injEq]

/-- The bytes of a file change exactly if a directive was met in it, it has no error, and the new
text is not the one that its bytes say. Where the new text is the one that was read, that is the
case for a file with carriage returns only. A new text that cannot be written leaves the file
empty. -/
theorem renderFile_bytes (hq : disk.follow [] p = .ok q) (hbytes : disk.bytes? q = some bytes)
    (hraw : Utf8.decode bytes = .ok raw)
    (hr : render (Text.normalizeLineEnds raw) context = .ok r) :
    ∃ written result, renderFile disk p context false = (written, result) ∧
      (∀ other, other ≠ q → written.bytes? other = disk.bytes? other) ∧
      written.paths = disk.paths ∧ written.folders = disk.folders ∧
      (written.bytes? q ≠ disk.bytes? q ↔
        r.modified = true ∧ r.errors = [] ∧ r.content ≠ raw) ∧
      (r.content = Text.normalizeLineEnds raw → (written.bytes? q ≠ disk.bytes? q ↔
        r.modified = true ∧ r.errors = [] ∧ chr '\r' ∈ raw)) ∧
      (result = .ok r ∨ r.modified = true ∧ r.errors = [] ∧
        ∃ halves, Utf8.encode r.content = .error halves ∧
          result = .error (.unencodable halves) ∧ written.bytes? q = some []) := by
  have hsame : r.content = Text.normalizeLineEnds raw → (r.content ≠ raw ↔ chr '\r' ∈ raw) := by
    intro hcontent
    rw [hcontent, Ne, Text.normalizeLineEnds_eq_self_iff, not_not]
  have hguard : (r.modified && r.isOk) = true ↔ r.modified = true ∧ r.errors = [] := by
    rw [Bool.and_eq_true, Rendered.isOk, List.isEmpty_iff]
  have hdecoded := Utf8.encode_of_decode hraw
  obtain ⟨hkept, hrun⟩ | ⟨hwritten, hrun⟩ :=
    renderFile_cases hq (Disk.rendered_of_decode hq hbytes hraw hr)
  · have hnever : ∀ P : Prop, ¬(r.modified = true ∧ r.errors = [] ∧ P) := by
      rintro P ⟨hmodified, herrors, -⟩
      exact absurd (hkept.symm.trans (hguard.2 ⟨hmodified, herrors⟩)) Bool.false_ne_true
    exact ⟨disk, .ok r, hrun, fun _ _ => rfl, rfl, rfl, iff_of_false (· rfl) (hnever _),
      fun _ => iff_of_false (· rfl) (hnever _), .inl rfl⟩
  obtain ⟨hmodified, herrors⟩ := hguard.1 hwritten
  obtain ⟨new, hnew, hrun⟩ | ⟨halves, hhalves, hrun⟩ := hrun
  · obtain ⟨hframe, hpaths, hfolders, hdiffers⟩ := Disk.writeAt_over hbytes new
    have hcontent : new ≠ bytes ↔ r.content ≠ raw := by
      refine not_congr ⟨fun h => ?_, fun h => ?_⟩
      · exact Utf8.encode_inj (h ▸ hnew) hdecoded
      · rw [h, hdecoded] at hnew
        exact (Except.ok.inj hnew).symm
    refine ⟨_, _, hrun, hframe, hpaths, hfolders, ?_, fun h => ?_, .inl rfl⟩
    · rw [hdiffers, hcontent]
      exact ⟨fun hne => ⟨hmodified, herrors, hne⟩, fun ⟨_, _, hne⟩ => hne⟩
    · rw [hdiffers, hcontent, hsame h]
      exact ⟨fun hmem => ⟨hmodified, herrors, hmem⟩, fun ⟨_, _, hmem⟩ => hmem⟩
  · obtain ⟨hframe, hpaths, hfolders, hdiffers⟩ := Disk.writeAt_over hbytes []
    have hemptied : [] ≠ bytes := (ne_nil_of_modified hraw hr hmodified).symm
    have hcontent : r.content ≠ raw := by
      intro h
      rw [h, hdecoded] at hhalves
      cases hhalves
    refine ⟨_, _, hrun, hframe, hpaths, hfolders, ?_, fun h => ?_,
      .inr ⟨hmodified, herrors, halves, hhalves, rfl, Disk.bytes?_writeAt_self⟩⟩
    · exact iff_of_true (hdiffers.2 hemptied) ⟨hmodified, herrors, hcontent⟩
    · exact iff_of_true (hdiffers.2 hemptied) ⟨hmodified, herrors, (hsame h).1 hcontent⟩

def Disk.holding (s : Text) : Disk where
  files := [([text "a.md"], Utf8.ofText s)]
  folders := []

theorem renderFile_bytes_greeting :
    (Disk.holding (text "\x7b\x7bn\x7d\x7d\r\n")).follow [] [text "a.md"] = .ok [text "a.md"] ∧
    Utf8.decode (Utf8.ofText (text "\x7b\x7bn\x7d\x7d\r\n")) =
      .ok (text "\x7b\x7bn\x7d\x7d\r\n") ∧
    render (text "\x7b\x7bn\x7d\x7d\n") [(text "n", .str (text "Hi"))] =
      .ok ⟨text "Hi\n", true, 1, [], []⟩ ∧
    ∃ written,
      renderFile (.holding (text "\x7b\x7bn\x7d\x7d\r\n")) [text "a.md"]
        [(text "n", .str (text "Hi"))] false = (written, .ok ⟨text "Hi\n", true, 1, [], []⟩) ∧
      written.bytes? [text "a.md"] ≠
        (Disk.holding (text "\x7b\x7bn\x7d\x7d\r\n")).bytes? [text "a.md"] := by
  have hq : (Disk.holding (text "\x7b\x7bn\x7d\x7d\r\n")).follow [] [text "a.md"] =
      .ok [text "a.md"] := by decide +kernel
  have hraw : Utf8.decode (Utf8.ofText (text "\x7b\x7bn\x7d\x7d\r\n")) =
      .ok (text "\x7b\x7bn\x7d\x7d\r\n") := by decide +kernel
  have hr : render (text "\x7b\x7bn\x7d\x7d\n") [(text "n", .str (text "Hi"))] =
      .ok ⟨text "Hi\n", true, 1, [], []⟩ := by cbv
  obtain ⟨written, result, hrun, -, -, -, hdiffers, -, hresult⟩ := renderFile_bytes hq rfl hraw hr
  obtain rfl | ⟨-, -, halves, hhalves, -⟩ := hresult
  · exact ⟨hq, hraw, hr, written, hrun, hdiffers.2 ⟨rfl, rfl, by decide⟩⟩
  · cases hhalves.symm.trans (Utf8.encode_map_chr _)

/-- A reference becomes itself: the text that was read is written, and the carriage return in the
file is lost. -/
theorem renderFile_self_reference :
    (Disk.holding (text "\x7b\x7ba\x7d\x7d\r\n")).readText [text "a.md"] =
      .ok (text "\x7b\x7ba\x7d\x7d\n") ∧
    ∃ written,
      renderFile (.holding (text "\x7b\x7ba\x7d\x7d\r\n")) [text "a.md"]
        [(text "a", .str (text "\x7b\x7ba\x7d\x7d"))] false =
          (written, .ok ⟨text "\x7b\x7ba\x7d\x7d\n", true, 1, [], []⟩) ∧
      written.bytes? [text "a.md"] ≠
        (Disk.holding (text "\x7b\x7ba\x7d\x7d\r\n")).bytes? [text "a.md"] := by
  refine ⟨by decide +kernel, .holding (text "\x7b\x7ba\x7d\x7d\n"), by cbv, by decide⟩

end Stencil
