import Stencil.Proofs.OrderedMap
import Stencil.Proofs.YamlTree
import Stencil.YamlLibrary

/-!
# What a library for documents is trusted with

Two things are asked of the library. Its mappings are ordered maps, and a document that it writes
reads back with what it holds. The second one is asked for single documents only.
-/

namespace Stencil

namespace YamlTree

variable {entries filled : List (YamlKey × YamlTree)} {added : Fields} {names : List Text}

def isOther (names : List Text) (key : YamlKey) : Bool := decide (∀ name ∈ names, key ≠ .text name)

def others (names : List Text) (entries : List (YamlKey × YamlTree)) :
    List (YamlKey × YamlTree) :=
  entries.filter fun e => isOther names e.1

/-- The entries with fields set: each has its value and no other, and what stands under other keys
is as it was, in its order. -/
structure IsFilled (entries : List (YamlKey × YamlTree)) (added : Fields)
    (filled : List (YamlKey × YamlTree)) : Prop where
  sets : ∀ f ∈ added, ∀ t, (.text f.1, t) ∈ filled ↔ t = ofValue f.2
  keeps : others (Fields.keys added) filled = others (Fields.keys added) entries

theorem IsFilled.mem_cases (h : IsFilled entries added filled) {e : YamlKey × YamlTree}
    (he : e ∈ filled) :
    (∃ f ∈ added, e = (.text f.1, ofValue f.2)) ∨ e ∈ others (Fields.keys added) entries := by
  cases hkey : isOther (Fields.keys added) e.1 with
  | true =>
    rw [← h.keeps]
    exact .inr (List.mem_filter.2 ⟨he, hkey⟩)
  | false =>
    obtain ⟨name, hname, hlabel⟩ : ∃ name ∈ Fields.keys added, e.1 = .text name := by
      simpa [isOther] using hkey
    obtain ⟨f, hf, rfl⟩ := List.mem_map.1 hname
    obtain ⟨key, t⟩ := e
    obtain rfl : key = .text f.1 := hlabel
    exact .inl ⟨f, hf, by rw [(h.sets f hf t).1 he]⟩

def setEntries (added : Fields) (entries : List (YamlKey × YamlTree)) :
    List (YamlKey × YamlTree) :=
  added.foldl (fun entries f => OrderedMap.set (.text f.1) (ofValue f.2) entries) entries

theorem filter_setEntries {p : YamlKey → Bool} (h : ∀ f ∈ added, p (.text f.1) = false) :
    (setEntries added entries).filter (fun e => p e.1) = entries.filter fun e => p e.1 := by
  induction added generalizing entries with
  | nil => rfl
  | cons f added ih =>
    obtain ⟨hf, hadded⟩ := List.forall_mem_cons.1 h
    exact (ih hadded).trans (OrderedMap.filter_set hf)

theorem mem_setEntries {key : YamlKey} {t : YamlTree} (h : ∀ f ∈ added, key ≠ .text f.1) :
    (key, t) ∈ setEntries added entries ↔ (key, t) ∈ entries := by
  have hkeep := @filter_setEntries entries added (fun k => decide (k = key)) fun f hf =>
    decide_eq_false (Ne.symm (h f hf))
  have hmem : (key, t) ∈ (setEntries added entries).filter (fun e => decide (e.1 = key)) ↔
      (key, t) ∈ entries.filter fun e => decide (e.1 = key) := by rw [hkeep]
  simpa [List.mem_filter] using hmem

theorem isFilled_setEntries (h : (Fields.keys added).Nodup) :
    IsFilled entries added (setEntries added entries) where
  keeps := filter_setEntries fun f hf =>
    decide_eq_false fun hall => hall f.1 (List.mem_map_of_mem hf) rfl
  sets := by
    -- What is set first stays, for its key does not come again.
    induction added generalizing entries with
    | nil => nofun
    | cons f added ih =>
      obtain ⟨hf, hadded⟩ := List.nodup_cons.1 h
      refine List.forall_mem_cons.2 ⟨fun t => ?_, ih hadded⟩
      have hnew : ∀ g ∈ added, YamlKey.text f.1 ≠ .text g.1 := fun g hg heq =>
        hf (YamlKey.text.inj heq ▸ List.mem_map_of_mem hg)
      exact (mem_setEntries hnew).trans OrderedMap.mem_set_self

end YamlTree

namespace YamlLibrary

open YamlTree (IsFilled setEntries)

/-- The mappings of the library are ordered maps, and a new one is empty. -/
structure FillsMappings (yaml : YamlLibrary) : Prop where
  empty : yaml.tree yaml.empty = .mapping []
  update : ∀ d entries added, yaml.tree d = .mapping entries → (Fields.keys added).Nodup →
    ∃ filled, yaml.tree (yaml.update d added) = .mapping filled ∧ IsFilled entries added filled

/-- Reading what is written of a document gives what the document holds. -/
def ReadsBack (yaml : YamlLibrary) (d : yaml.Document) : Prop :=
  (yaml.dump d >>= yaml.load).map yaml.tree = .ok (yaml.tree d)

instance (yaml : YamlLibrary) (d : yaml.Document) : Decidable (yaml.ReadsBack d) :=
  inferInstanceAs (Decidable (_ = _))

/-- The library that keeps nothing of a document but what it holds. -/
def ofTrees (load : Bytes → Except YamlFault YamlTree) (dump : YamlTree → Except YamlFault Bytes)
    (readValue : Text → Except YamlFault Value) : YamlLibrary where
  Document := YamlTree
  tree := id
  empty := .mapping []
  load := load
  update
    | .mapping entries, added => .mapping (setEntries added entries)
    | tree, _ => tree
  dump := dump
  readValue := readValue

theorem fillsMappings_ofTrees {load : Bytes → Except YamlFault YamlTree}
    {dump : YamlTree → Except YamlFault Bytes} {readValue : Text → Except YamlFault Value} :
    (ofTrees load dump readValue).FillsMappings where
  empty := rfl
  update d entries added hd hadded := by
    obtain rfl : d = .mapping entries := hd
    exact ⟨_, rfl, YamlTree.isFilled_setEntries hadded⟩

end YamlLibrary

end Stencil
