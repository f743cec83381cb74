import Mathlib.Data.List.TakeWhile
import Stencil.Proofs.Template.Marker
import Stencil.Proofs.Text.Trimming
import Stencil.Template.Reference

/-!
# Where references stand

Where a text has references is said without a scan: by the braces, the character in front of them
and what stands between. No reference starts inside another, so the scan passes over none.
-/

namespace Stencil

open Text

namespace Reference

/-- Whether a reference stands at an offset, with this text up to the next brace. -/
structure StandsAt (s : Text) (offset : Nat) (inner : Text) : Prop where
  opened : (s.drop offset).take 2 = openBraces
  no_dollar : (s.take offset).getLast? ≠ some (chr '$')
  up_to_brace : (s.drop (offset + 2)).takeWhile (!isBrace ·) = inner
  named : ∃ c, inner.find? (!isBlank ·) = some c ∧ isSigil c = false
  closed : (s.drop (offset + 2 + inner.length)).take 2 = closeBraces

instance (s : Text) (offset : Nat) (inner : Text) : Decidable (StandsAt s offset inner) :=
  decidable_of_iff
    ((s.drop offset).take 2 = openBraces ∧ (s.take offset).getLast? ≠ some (chr '$') ∧
      (s.drop (offset + 2)).takeWhile (!isBrace ·) = inner ∧
      (inner.find? (!isBlank ·)).any (!isSigil ·) ∧
      (s.drop (offset + 2 + inner.length)).take 2 = closeBraces)
    ⟨fun ⟨hopened, hdollar, hinner, hnamed, hclosed⟩ =>
      ⟨hopened, hdollar, hinner, by simpa [Option.any_eq_true] using hnamed, hclosed⟩,
    fun h => ⟨h.opened, h.no_dollar, h.up_to_brace, by
      simpa [Option.any_eq_true] using h.named, h.closed⟩⟩

/-! ## A reference at the front -/

/-- What may stand between the braces: no brace, and something visible that is no sigil first. -/
structure IsInner (inner : Text) : Prop where
  braceless : Braceless inner
  named : ∃ c, inner.find? (!isBlank ·) = some c ∧ isSigil c = false

theorem named_iff {inner : Text} :
    (trimStart inner).head?.any (!isSigil ·) ↔
      ∃ c, inner.find? (!isBlank ·) = some c ∧ isSigil c = false := by
  rw [List.find?_not_eq_head?_dropWhile, trimStart, Option.any_eq_true]
  simp only [Bool.not_eq_true']

theorem source_append (inner rest : Text) :
    (Segment.reference inner).source ++ rest =
      openBraces ++ (inner ++ (closeBraces ++ rest)) := by
  simp [Segment.source]

theorem take?_eq_some_iff {s inner rest : Text} :
    take? s = some (inner, rest) ↔
      IsInner inner ∧ s = (Segment.reference inner).source ++ rest := by
  constructor
  · intro h
    refine ⟨?_, eq_append_of_take? h⟩
    unfold take? at h
    split at h
    · split at h
      · cases h
      · next hclosed =>
        split at h
        · next hnamed =>
          cases h
          exact ⟨braceless_of_takeClosed? hclosed, named_iff.1 hnamed⟩
        · cases h
    · cases h
  · rintro ⟨⟨hbraceless, hnamed⟩, rfl⟩
    have hclosed := takeClosed?_append hbraceless rest
    simp only [Segment.source, openBraces, List.append_assoc, List.cons_append, List.nil_append,
      take?] at hclosed ⊢
    rw [hclosed]
    simp only [named_iff.2 hnamed, if_true]

theorem take?_cons_eq_none {c : CodePoint} {s : Text} (h : c ≠ '{' ∨ s.head? ≠ some (chr '{')) :
    take? (c :: s) = none := by
  unfold take?
  split
  · next s' heq =>
    cases heq
    simp at h
  · rfl

/-! ## References further on -/

/-- Whether a reference starts this far into a text that stands behind a dollar sign or not. -/
inductive Starts (inner : Text) : Bool → Text → Nat → Prop
  | here {s rest : Text} : take? s = some (inner, rest) → Starts inner false s 0
  | later {dollar : Bool} {c : CodePoint} {s : Text} {i : Nat} : Starts inner (c == '$') s i →
      Starts inner dollar (c :: s) (i + 1)

variable {s rest inner x : Text} {dollar : Bool} {c : CodePoint} {i : Nat}

theorem starts_cons (h : (if dollar then none else take? (c :: s)) = none) :
    Starts x dollar (c :: s) i ↔ ∃ j, i = 1 + j ∧ Starts x (c == '$') s j := by
  constructor
  · rintro (hfound | hlater)
    · rw [if_neg (by decide), hfound] at h
      cases h
    · exact ⟨_, Nat.add_comm _ 1, hlater⟩
  · rintro ⟨j, rfl, hj⟩
    rw [Nat.add_comm]
    exact .later hj

theorem starts_cons_of_ne (h : c ≠ '{' ∨ s.head? ≠ some (chr '{')) :
    Starts x dollar (c :: s) i ↔ ∃ j, i = 1 + j ∧ Starts x (c == '$') s j := by
  refine starts_cons ?_
  rw [take?_cons_eq_none h, ite_self]

theorem exists_shift {p : Nat → Prop} {m n : Nat} :
    (∃ j, i = m + j ∧ ∃ l, j = n + l ∧ p l) ↔ ∃ l, i = m + n + l ∧ p l := by
  constructor
  · rintro ⟨-, rfl, l, rfl, hl⟩
    exact ⟨l, (Nat.add_assoc m n l).symm, hl⟩
  · rintro ⟨l, rfl, hl⟩
    exact ⟨n + l, Nat.add_assoc m n l, l, rfl, hl⟩

theorem starts_inside (h : Braceless inner) :
    Starts x dollar (inner ++ closeBraces ++ rest) i ↔
      ∃ j, i = inner.length + 2 + j ∧ Starts x false rest j := by
  induction inner generalizing dollar i with
  | nil =>
    have hclosed : ([] : Text) ++ closeBraces ++ rest = chr '}' :: '}' :: rest := rfl
    simp only [hclosed, starts_cons_of_ne (.inl (by decide : chr '}' ≠ chr '{')), exists_shift]
    rfl
  | cons c inner ih =>
    obtain ⟨hc, hinner⟩ := List.forall_mem_cons.1 h
    have hne : c ≠ '{' := by
      rintro rfl
      cases hc
    simp only [List.cons_append, starts_cons_of_ne (.inl hne), ih hinner, exists_shift,
      List.length_cons]
    rw [show 1 + (inner.length + 2) = inner.length + 1 + 2 by omega]

theorem head?_ne_of_braceless (h : Braceless inner) :
    (inner ++ closeBraces ++ rest).head? ≠ some (chr '{') := by
  cases inner with
  | nil => simp [closeBraces]
  | cons c inner =>
    rintro hc
    cases hc
    cases h _ List.mem_cons_self

/-- Behind the start of a reference, the next one starts behind its end. -/
theorem starts_reference (h : take? s = some (inner, rest)) :
    Starts x false s i ↔ x = inner ∧ i = 0 ∨
      ∃ j, i = (Segment.reference inner).source.length + j ∧ Starts x false rest j := by
  obtain ⟨hinner, rfl⟩ := take?_eq_some_iff.1 h
  have hsource : (Segment.reference inner).source ++ rest =
      chr '{' :: '{' :: (inner ++ closeBraces ++ rest) := by
    simp [Segment.source, openBraces]
  have hlength : (Segment.reference inner).source.length = 1 + (1 + (inner.length + 2)) := by
    simp [Segment.source, openBraces, closeBraces]
    omega
  -- What follows the second brace is no third one, so nothing starts at it.
  have hlater : ∀ j, Starts x false ('{' :: (inner ++ closeBraces ++ rest)) j ↔
      ∃ l, j = 1 + (inner.length + 2) + l ∧ Starts x false rest l := by
    intro j
    rw [starts_cons_of_ne (.inr (head?_ne_of_braceless hinner.braceless))]
    simp only [starts_inside hinner.braceless, exists_shift]
  rw [hsource] at h
  rw [hsource, hlength]
  constructor
  · rintro (hfound | hrest)
    · rw [h] at hfound
      cases hfound
      exact .inl ⟨rfl, rfl⟩
    · obtain ⟨l, rfl, hl⟩ := (hlater _).1 hrest
      exact .inr ⟨l, by omega, hl⟩
  · rintro (⟨rfl, rfl⟩ | ⟨j, rfl, hj⟩)
    · exact .here h
    · rw [Nat.add_assoc, Nat.add_comm 1]
      exact .later ((hlater _).2 ⟨j, rfl, hj⟩)

theorem starts_iff :
    Starts x dollar s i ↔ (s.take i).getLast?.elim (dollar = false) (· ≠ chr '$') ∧
      ∃ rest, take? (s.drop i) = some (x, rest) := by
  induction i generalizing dollar s with
  | zero =>
    constructor
    · intro h
      cases h with
      | here h => exact ⟨rfl, _, h⟩
    · rintro ⟨hdollar, rest, h⟩
      cases dollar with
      | false => exact .here h
      | true => cases hdollar
  | succ i ih =>
    cases s with
    | nil =>
      constructor
      · intro h
        cases h
      · rintro ⟨-, rest, h⟩
        cases h
    | cons c s =>
      have hlater : Starts x dollar (c :: s) (i + 1) ↔ Starts x (c == '$') s i :=
        ⟨fun | .later h => h, .later⟩
      -- One step on, the sign in front of the text is the character that was passed.
      have hbefore : ((c :: s).take (i + 1)).getLast?.elim (dollar = false) (· ≠ chr '$') ↔
          (s.take i).getLast?.elim ((c == '$') = false) (· ≠ chr '$') := by
        rw [List.take_succ_cons, List.getLast?_cons]
        cases (s.take i).getLast? <;> simp
      rw [hlater, ih, hbefore, List.drop_succ_cons]

theorem exists_take?_iff {t : Text} :
    (∃ rest, take? t = some (inner, rest)) ↔
      t.take 2 = openBraces ∧ (t.drop 2).takeWhile (!isBrace ·) = inner ∧
        (∃ c, inner.find? (!isBlank ·) = some c ∧ isSigil c = false) ∧
        (t.drop (2 + inner.length)).take 2 = closeBraces := by
  rw [← List.drop_drop]
  constructor
  · rintro ⟨rest, h⟩
    obtain ⟨hinner, rfl⟩ := take?_eq_some_iff.1 h
    have hplain : ∀ c ∈ inner, !isBrace c := by
      intro c hc
      rw [hinner.braceless c hc]
      rfl
    have hbehind : ((Segment.reference inner).source ++ rest).drop 2 =
        inner ++ (closeBraces ++ rest) := by
      rw [source_append]
      rfl
    rw [hbehind, List.drop_left, takeWhile_stop hplain rfl, source_append]
    exact ⟨rfl, rfl, hinner.named, rfl⟩
  · rintro ⟨hopened, hinner, hnamed, hclosed⟩
    have hbraceless : Braceless inner := by
      intro c hc
      rw [← hinner] at hc
      simpa using List.all_eq_true.1 List.all_takeWhile c hc
    have hopen := List.take_append_drop 2 t
    have hinside := List.takeWhile_append_dropWhile (p := (!isBrace ·)) (l := t.drop 2)
    rw [hinner] at hinside
    rw [← hinside, List.drop_left] at hclosed
    have hclose := List.take_append_drop 2 ((t.drop 2).dropWhile (!isBrace ·))
    obtain ⟨rest, hrest⟩ : ∃ rest, t = (Segment.reference inner).source ++ rest := by
      refine ⟨((t.drop 2).dropWhile (!isBrace ·)).drop 2, ?_⟩
      rw [source_append, ← hclosed, hclose, hinside, ← hopened, hopen]
    exact ⟨rest, take?_eq_some_iff.2 ⟨⟨hbraceless, hnamed⟩, hrest⟩⟩

theorem standsAt_iff : StandsAt s i inner ↔ Starts inner false s i := by
  have hdollar : (s.take i).getLast?.elim (false = false) (· ≠ chr '$') ↔
      (s.take i).getLast? ≠ some (chr '$') := by
    cases (s.take i).getLast? <;> simp
  rw [starts_iff, exists_take?_iff, hdollar, List.drop_drop, List.drop_drop, ← Nat.add_assoc]
  exact ⟨fun h => ⟨h.no_dollar, h.opened, h.up_to_brace, h.named, h.closed⟩,
    fun ⟨hbefore, hopened, hinner, hnamed, hclosed⟩ =>
      ⟨hopened, hbefore, hinner, hnamed, hclosed⟩⟩

/-! ## A marker that stands alone -/

theorem ofMarker_source (inner : Text) :
    ofMarker (Segment.reference inner).source = ofInner inner := by
  have htight : Tight (Segment.reference inner).source := by
    refine ⟨rfl, ?_⟩
    rw [Segment.source, List.getLast?_append]
    rfl
  have hfront : after? openBraces (Segment.reference inner).source =
      some (inner ++ closeBraces) := by
    simp [Segment.source, openBraces, after?]
  have hback : after? closeBraces (Segment.reference inner).source.reverse =
      some (inner.reverse ++ openBraces) := by
    simp [Segment.source, openBraces, closeBraces, after?]
  have hinner : ((Segment.reference inner).source.drop 2).dropLast.dropLast = inner := by
    simp [Segment.source, openBraces, closeBraces]
  simp only [ofMarker, innerOf, htight.trim_eq, hfront, hback, hinner]

theorem ofInner_of_not_mem (h : chr '|' ∉ inner) : ofInner inner = ⟨trim inner, none⟩ := by
  have hcut : cut? '|' inner = none := by
    rw [cut?, List.dropWhile_eq_nil_iff.2]
    intro c hc
    simpa using ne_of_mem_of_not_mem hc h
  rw [ofInner, hcut]

theorem ofInner_append {front back : Text} (h : chr '|' ∉ front) :
    ofInner (front ++ chr '|' :: back) = ⟨trim front, some (trim back)⟩ := by
  have hfront : ∀ c ∈ front, (c != '|') = true := by
    intro c hc
    simpa using ne_of_mem_of_not_mem hc h
  have hcut : cut? '|' (front ++ chr '|' :: back) = some (front, back) := by
    rw [cut?, dropWhile_stop hfront rfl, takeWhile_stop hfront rfl]
  rw [ofInner, hcut]

end Reference

/-! ## The scan -/

open Reference

theorem collect_push (k : Nat) (c : CodePoint) (segments : List Segment) :
    references.collect k (Segment.push c segments) = references.collect (k + 1) segments := by
  cases segments with
  | nil => rfl
  | cons segment segments =>
    cases segment with
    | plain body =>
      rw [Segment.push, references.collect, references.collect, List.length_cons, Nat.add_assoc,
        Nat.add_comm 1]
    | reference inner => rfl

theorem mem_collect_iff {k i : Nat} {dollar : Bool} {s inner : Text} :
    (i, inner) ∈ references.collect k (Segment.ofText dollar s) ↔
      ∃ j, i = k + j ∧ Starts inner dollar s j := by
  fun_induction Segment.ofText dollar s generalizing k with
  | case1 dollar =>
    refine iff_of_false List.not_mem_nil ?_
    rintro ⟨j, -, hj⟩
    cases hj with
    | here h => cases h
  | case2 dollar c s first rest h _ ih =>
    cases dollar with
    | true => cases h
    | false =>
      rw [references.collect, List.mem_cons, ih]
      simp only [starts_reference h, and_or_left, exists_or, exists_shift, Prod.mk.injEq]
      refine or_congr_left ?_
      constructor
      · rintro ⟨hi, hinner⟩
        exact ⟨0, hi, hinner, rfl⟩
      · rintro ⟨-, hi, hinner, rfl⟩
        exact ⟨hi, hinner⟩
  | case3 dollar c s h ih =>
    simp only [collect_push, ih, starts_cons h, exists_shift]

theorem collect_increasing (k : Nat) (segments : List Segment) :
    (∀ found ∈ references.collect k segments, k ≤ found.1) ∧
      (references.collect k segments).Pairwise fun found later => found.1 < later.1 := by
  induction segments generalizing k with
  | nil => exact ⟨List.forall_mem_nil _, .nil⟩
  | cons segment segments ih =>
    cases segment with
    | plain body =>
      obtain ⟨hle, hsorted⟩ := ih (k + body.length)
      refine ⟨fun found hfound => ?_, hsorted⟩
      exact Nat.le_trans (Nat.le_add_right k _) (hle found hfound)
    | reference inner =>
      have hpos : k < k + (Segment.reference inner).source.length :=
        Nat.lt_add_of_pos_right (Nat.succ_pos _)
      obtain ⟨hle, hsorted⟩ := ih (k + (Segment.reference inner).source.length)
      have hlt := fun found hfound => Nat.lt_of_lt_of_le hpos (hle found hfound)
      refine ⟨List.forall_mem_cons.2 ⟨Nat.le_refl k, ?_⟩, List.pairwise_cons.2 ⟨hlt, hsorted⟩⟩
      exact fun found hfound => Nat.le_of_lt (hlt found hfound)

theorem mem_references_iff_starts {s inner : Text} {i : Nat} :
    (i, inner) ∈ references s ↔ Starts inner false s i := by
  rw [references, mem_collect_iff]
  simp

theorem exists_take?_of_mem_references {s inner : Text} {i : Nat} (h : (i, inner) ∈ references s) :
    ∃ rest, take? (s.drop i) = some (inner, rest) :=
  (starts_iff.1 (mem_references_iff_starts.1 h)).2

/-- The scan finds every place where a reference stands, in order and each once. -/
theorem mem_references_iff (s : Text) :
    (references s).Pairwise (fun found later => found.1 < later.1) ∧
      (∀ i inner, (i, inner) ∈ references s ↔ StandsAt s i inner) ∧
      ∀ i inner, (i, inner) ∈ references s →
        (s.drop i).take (inner.length + 4) = (Segment.reference inner).source ∧
          ofMarker (Segment.reference inner).source = ofInner inner ∧
          (chr '|' ∉ inner → ofInner inner = ⟨trim inner, none⟩) ∧
          ∀ front back, inner = front ++ chr '|' :: back → chr '|' ∉ front →
            ofInner inner = ⟨trim front, some (trim back)⟩ := by
  have hmem : ∀ i inner, (i, inner) ∈ references s ↔ StandsAt s i inner := fun i inner =>
    mem_references_iff_starts.trans standsAt_iff.symm
  refine ⟨(collect_increasing 0 _).2, hmem, fun i inner h => ?_⟩
  obtain ⟨rest, hfound⟩ := exists_take?_of_mem_references h
  refine ⟨?_, ofMarker_source inner, ofInner_of_not_mem, ?_⟩
  · have hlength : (Segment.reference inner).source.length = inner.length + 4 := by
      simp [Segment.source, openBraces, closeBraces]
    rw [eq_append_of_take? hfound, ← hlength]
    exact List.take_left
  · rintro front back rfl hfront
    exact ofInner_append hfront

theorem mem_references_iff_between :
    let s := text "$\x7b\x7bx\x7d\x7d \x7b\x7b\x7by | up\x7d\x7d" ++
      text " \x7b\x7b #z\x7d\x7d \x7b\x7b \x7d\x7d"
    StandsAt s 8 (text "y | up") ∧ (8, text "y | up") ∈ references s ∧
      (s.drop 8).take 10 = text "\x7b\x7by | up\x7d\x7d" ∧
      ofMarker (text "\x7b\x7by | up\x7d\x7d") = ⟨text "y", some (text "up")⟩ ∧
      (1, text "x") ∉ references s ∧ (19, text " #z") ∉ references s ∧
      (27, text " ") ∉ references s := by
  intro s
  obtain ⟨-, hmem, hfound⟩ := mem_references_iff s
  have hstands : StandsAt s 8 (text "y | up") := by decide +kernel
  obtain ⟨hslice, hmarker, -, hbar⟩ := hfound 8 _ ((hmem 8 _).2 hstands)
  refine ⟨hstands, (hmem 8 _).2 hstands, hslice, hmarker.trans ?_, ?_⟩
  · rw [hbar (text "y ") (text " up") rfl (by decide)]
    decide
  · simp only [hmem]
    decide +kernel

end Stencil
