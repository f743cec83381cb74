import Stencil.Proofs.Rendering.Messages
import Stencil.Proofs.Template.References

/-!
# Substitution

The references of a text are replaced at once. Each is resolved by itself, its slice gives way to
what it becomes, and nothing is scanned again. All else stays, markers behind a dollar sign too.
-/

namespace Stencil

open Outcome

/-! ## Slices -/

namespace Text

/-- A slice of a text, by its offset and what it says, and what takes its place. -/
structure Patch where
  offset : Nat
  old : Text
  new : Text

/-- The text that stands from `position` on, with its patches put in from front to back; `none` if
a slice is not where its patch says, or overlaps the one before. -/
def patched? (position : Nat) (s : Text) : List Patch → Option Text
  | [] => some s
  | patch :: patches =>
    if position ≤ patch.offset then
      match after? patch.old (s.drop (patch.offset - position)) with
      | none => none
      | some rest =>
        (patched? (patch.offset + patch.old.length) rest patches).map
          (s.take (patch.offset - position) ++ patch.new ++ ·)
    else none

variable {position : Nat} {patches : List Patch}

/-- What stands in front of the first patch stays. -/
theorem patched?_append {lead : Text} (s : Text)
    (h : ∀ patch ∈ patches, position + lead.length ≤ patch.offset) :
    patched? position (lead ++ s) patches =
      (patched? (position + lead.length) s patches).map (lead ++ ·) := by
  cases patches with
  | nil => rfl
  | cons patch patches =>
    have hle := h patch List.mem_cons_self
    obtain ⟨n, hn⟩ := Nat.exists_eq_add_of_le hle
    have hfar : patch.offset - position = lead.length + n := by omega
    have hnear : patch.offset - (position + lead.length) = n := by omega
    rw [patched?, patched?, if_pos (Nat.le_of_add_right_le hle), if_pos hle, hfar, hnear,
      List.take_length_add_append, List.drop_length_add_append]
    cases after? patch.old (s.drop n) with
    | none => rfl
    | some rest => simp only [Option.map_map, Function.comp_def, List.append_assoc]

theorem patched?_cons_self (old new s : Text) :
    patched? position (old ++ s) (⟨position, old, new⟩ :: patches) =
      (patched? (position + old.length) s patches).map (new ++ ·) := by
  rw [patched?, if_pos (Nat.le_refl position), Nat.sub_self, List.drop_zero, after?_append]
  rfl

end Text

/-! ## Segments one after the other -/

section Segments

variable {scope : Scope} {segment : Segment} {segments : List Segment} {r : Rendering}

def Segment.renderAll (scope : Scope) (segments : List Segment) :
    Except ConversionError Rendering := do
  return .concat (← segments.mapM (Segment.render scope))

theorem renderText_eq (body : Text) :
    renderText scope body = do
      let r ← Segment.renderAll scope (Segment.ofText false body)
      return ⟨[], 0, (includes body).map .includeUnsupported⟩ ++ r := by
  unfold renderText Segment.renderAll
  cases (Segment.ofText false body).mapM (Segment.render scope) <;> rfl

theorem renderAll_nil : Segment.renderAll scope [] = .ok .empty := rfl

theorem renderAll_cons :
    Segment.renderAll scope (segment :: segments) = do
      let a ← segment.render scope
      let b ← Segment.renderAll scope segments
      return a ++ b := by
  simp only [Segment.renderAll, List.mapM_cons, bind_assoc, pure_bind]
  rfl

/-- Segments put out a text as it is, and then what others put out. -/
def Segment.Keeps (scope : Scope) (lead : Text) (segments rest : List Segment) : Prop :=
  renderAll scope segments = (renderAll scope rest).map (.plain lead ++ ·)

theorem Segment.Keeps.trans {lead middle : Text} {rest last : List Segment}
    (h : Keeps scope lead segments rest) (hrest : Keeps scope middle rest last) :
    Keeps scope (lead ++ middle) segments last := by
  rw [Keeps, h, hrest]
  cases renderAll scope last with
  | error e => rfl
  | ok r => exact congrArg Except.ok (Rendering.append_assoc _ _ r).symm

theorem keeps_plain {body : Text} :
    Segment.Keeps scope body (.plain body :: segments) segments := by
  rw [Segment.Keeps, renderAll_cons]
  rfl

theorem keeps_push {c : CodePoint} :
    Segment.Keeps scope [c] (Segment.push c segments) segments := by
  cases segments with
  | nil => exact keeps_plain
  | cons segment segments =>
    cases segment with
    | reference inner => exact keeps_plain
    | plain body =>
      rw [Segment.push, Segment.Keeps, keeps_plain, keeps_plain]
      cases Segment.renderAll scope segments with
      | error e => rfl
      | ok r => exact congrArg Except.ok (Rendering.append_assoc (.plain [c]) (.plain body) r)

/-! ## References by their places -/

def Resolves (scope : Scope) (found : List (Nat × Text)) (parts : List Rendering) : Prop :=
  List.Forall₂ (fun reference part =>
    (Reference.ofInner reference.2).render scope = .ok part) found parts

/-- The slice of a reference gives way to the text that it becomes. -/
def Reference.patch (found : Nat × Text) (part : Rendering) : Text.Patch :=
  ⟨found.1, (Segment.reference found.2).source, part.text⟩

/-- What a text becomes from `position` on, with its references and what they become. -/
structure Substitutes (position : Nat) (s : Text) (found : List (Nat × Text))
    (parts : List Rendering) (r : Rendering) : Prop where
  text : Text.patched? position s (List.zipWith Reference.patch found parts) = some r.text
  directives : r.directives = found.length
  warnings : r.warnings = parts.flatMap (·.warnings)

theorem substitutes_plain_iff {k : Nat} {body s : Text} {parts : List Rendering} :
    Substitutes k (body ++ s) (references.collect (k + body.length) segments) parts r ↔
      ∃ b, Substitutes (k + body.length) s (references.collect (k + body.length) segments)
        parts b ∧ .plain body ++ b = r := by
  have hoffset : ∀ patch ∈ List.zipWith Reference.patch
      (references.collect (k + body.length) segments) parts, k + body.length ≤ patch.offset := by
    intro patch hpatch
    rw [← List.map_uncurry_zip_eq_zipWith] at hpatch
    obtain ⟨⟨found, part⟩, hmem, rfl⟩ := List.mem_map.1 hpatch
    exact (collect_increasing _ segments).1 found (List.of_mem_zip hmem).1
  constructor
  · rintro ⟨htext, hcount, hwarnings⟩
    rw [Text.patched?_append s hoffset, Option.map_eq_some_iff] at htext
    obtain ⟨out, hout, htext⟩ := htext
    refine ⟨⟨out, r.directives, r.warnings⟩, ⟨hout, hcount, hwarnings⟩, ?_⟩
    exact Rendering.ext_iff.2 ⟨htext, Nat.zero_add _, rfl⟩
  · rintro ⟨b, ⟨hout, hcount, hwarnings⟩, rfl⟩
    refine ⟨?_, (Nat.zero_add _).trans hcount, hwarnings⟩
    rw [Text.patched?_append s hoffset, hout]
    rfl

theorem substitutes_reference_iff {k : Nat} {inner s : Text} {part : Rendering}
    {found : List (Nat × Text)} {parts : List Rendering} (h : part.directives = 0) :
    Substitutes k ((Segment.reference inner).source ++ s) ((k, inner) :: found) (part :: parts) r ↔
      ∃ b, Substitutes (k + (Segment.reference inner).source.length) s found parts b ∧
        part.counted ++ b = r := by
  have hpatch : Text.patched? k ((Segment.reference inner).source ++ s)
      (List.zipWith Reference.patch ((k, inner) :: found) (part :: parts)) =
      (Text.patched? (k + (Segment.reference inner).source.length) s
        (List.zipWith Reference.patch found parts)).map (part.text ++ ·) :=
    Text.patched?_cons_self _ _ s
  have hcount : ∀ n, part.counted.directives + n = n + 1 := by
    intro n
    simp [Rendering.counted, h, Nat.add_comm]
  constructor
  · rintro ⟨htext, hdirectives, hwarnings⟩
    rw [hpatch, Option.map_eq_some_iff] at htext
    obtain ⟨out, hout, htext⟩ := htext
    refine ⟨⟨out, found.length, parts.flatMap (·.warnings)⟩, ⟨hout, rfl, rfl⟩, ?_⟩
    exact Rendering.ext_iff.2 ⟨htext, (hcount _).trans hdirectives.symm, hwarnings.symm⟩
  · rintro ⟨b, ⟨hout, hdirectives, hwarnings⟩, rfl⟩
    refine ⟨?_, (hcount _).trans (congrArg (· + 1) hdirectives), congrArg (_ ++ ·) hwarnings⟩
    rw [hpatch, hout]
    rfl

theorem renderAll_iff {k : Nat} :
    Segment.renderAll scope segments = .ok r ↔
      ∃ parts, Resolves scope (references.collect k segments) parts ∧
        Substitutes k (segments.flatMap Segment.source) (references.collect k segments) parts
          r := by
  -- Each segment moves the position on by its own length.
  induction segments generalizing k r with
  | nil =>
    rw [renderAll_nil, Except.ok.injEq]
    constructor
    · rintro rfl
      exact ⟨[], .nil, rfl, rfl, rfl⟩
    · rintro ⟨-, ⟨⟩, htext, hdirectives, hwarnings⟩
      exact Rendering.ext_iff.2 ⟨Option.some.inj htext, hdirectives.symm, hwarnings.symm⟩
  | cons segment segments ih =>
    rw [List.flatMap_cons]
    cases segment with
    | plain body =>
      rw [keeps_plain, map_eq_ok_iff, references.collect, Segment.source]
      simp only [substitutes_plain_iff, @ih _ (k + body.length)]
      constructor
      · rintro ⟨b, ⟨parts, hparts, hb⟩, hr⟩
        exact ⟨parts, hparts, b, hb, hr⟩
      · rintro ⟨parts, hparts, b, hb, hr⟩
        exact ⟨b, ⟨parts, hparts, hb⟩, hr⟩
    | reference inner =>
      simp only [renderAll_cons, references.collect, Segment.render, bind_eq_ok_iff,
        pure_eq_ok_iff, @ih _ (k + (Segment.reference inner).source.length)]
      constructor
      · rintro ⟨-, ⟨part, hpart, rfl⟩, b, ⟨parts, hparts, hb⟩, hr⟩
        have hzero := directives_reference hpart
        exact ⟨part :: parts, .cons hpart hparts, (substitutes_reference_iff hzero).2 ⟨b, hb, hr⟩⟩
      · rintro ⟨_, hall, hr⟩
        obtain ⟨part, parts, hpart, hparts, rfl⟩ := List.forall₂_cons_left_iff.1 hall
        have hzero := directives_reference hpart
        obtain ⟨b, hb, hr⟩ := (substitutes_reference_iff hzero).1 hr
        exact ⟨_, ⟨part, hpart, rfl⟩, b, ⟨parts, hparts, hb⟩, hr⟩

/-! ## Behind a dollar sign -/

namespace Segment

theorem ofText_of_take? {s inner rest : Text} (h : Reference.take? s = some (inner, rest)) :
    ofText false s = reference inner :: ofText false rest := by
  cases s with
  | nil => cases h
  | cons c s =>
    rw [ofText]
    split
    · next h' =>
      cases h.symm.trans h'
      rfl
    · next h' => cases h.symm.trans h'

theorem ofText_cons_of_none {dollar : Bool} {c : CodePoint} {s : Text}
    (h : (if dollar then none else Reference.take? (c :: s)) = none) :
    ofText dollar (c :: s) = push c (ofText (c == '$') s) := by
  rw [ofText]
  split
  · next h' => cases h.symm.trans h'
  · rfl

end Segment

section Dollar

variable {dollar : Bool} {c : CodePoint} {s front back inner rest : Text}

theorem keeps_cons (h : (if dollar then none else Reference.take? (c :: s)) = none) :
    Segment.Keeps scope [c] (Segment.ofText dollar (c :: s)) (Segment.ofText (c == '$') s) := by
  rw [Segment.ofText_cons_of_none h]
  exact keeps_push

theorem keeps_cons_of_ne (h : c ≠ '{' ∨ s.head? ≠ some (chr '{')) :
    Segment.Keeps scope [c] (Segment.ofText dollar (c :: s)) (Segment.ofText (c == '$') s) := by
  refine keeps_cons ?_
  rw [Reference.take?_cons_eq_none h, ite_self]

/-- Between the braces of a marker that is passed over, and in the closing ones, all is kept. -/
theorem keeps_inside (h : Braceless inner) :
    Segment.Keeps scope (inner ++ closeBraces)
      (Segment.ofText dollar (inner ++ closeBraces ++ back)) (Segment.ofText false back) := by
  induction inner generalizing dollar with
  | nil => exact (keeps_cons_of_ne (.inl (by decide))).trans (keeps_cons_of_ne (.inl (by decide)))
  | cons c inner ih =>
    obtain ⟨hc, hinner⟩ := List.forall_mem_cons.1 h
    have hne : c ≠ '{' := by
      rintro rfl
      cases hc
    exact (keeps_cons_of_ne (.inl hne)).trans (ih hinner)

theorem keeps_behind_dollar (h : Braceless inner) :
    Segment.Keeps scope (Segment.reference inner).source
      (Segment.ofText true ((Segment.reference inner).source ++ back))
      (Segment.ofText false back) := by
  have hsource : (Segment.reference inner).source =
      [chr '{'] ++ ([chr '{'] ++ (inner ++ closeBraces)) := by
    simp [Segment.source, openBraces]
  have hhead : (inner ++ closeBraces ++ back).head? ≠ some (chr '{') :=
    Reference.head?_ne_of_braceless h
  rw [hsource]
  exact (keeps_cons rfl).trans ((keeps_cons_of_ne (.inr hhead)).trans (keeps_inside h))

theorem exists_of_source_append (h : Braceless inner) (hback : back.head?.all (· == chr '{'))
    (heq : front ++ chr '$' :: back = (Segment.reference inner).source ++ rest) :
    ∃ middle, front = (Segment.reference inner).source ++ middle ∧
      rest = middle ++ chr '$' :: back := by
  obtain ⟨tail, hsource, htail⟩ | hends := List.append_eq_append_iff.1 heq
  · cases tail with
    | nil =>
      rw [List.append_nil] at hsource
      exact ⟨[], by rw [List.append_nil, hsource], htail.symm⟩
    | cons d tail =>
      obtain ⟨rfl, rfl⟩ := List.cons.inj htail
      exfalso
      -- The dollar sign would stand behind the opening braces, where no other one is.
      have hsuffix : chr '$' :: tail <:+ inner ++ closeBraces := by
        have hall : chr '$' :: tail <:+ chr '{' :: '{' :: (inner ++ closeBraces) :=
          ⟨front, by simpa [Segment.source, openBraces] using hsource.symm⟩
        simpa [List.suffix_cons_iff] using hall
      cases tail with
      | nil =>
        obtain ⟨lead, hlead⟩ := hsuffix
        have hlast := congrArg List.getLast? hlead
        simp [closeBraces] at hlast
      | cons e tail =>
        obtain rfl : e = '{' := by simpa using hback
        have hmem : chr '{' ∈ inner ++ closeBraces := hsuffix.subset (by simp)
        obtain hmem | hmem := List.mem_append.1 hmem
        · cases h (chr '{') hmem
        · revert hmem
          decide
  · exact hends

theorem take?_append_dollar (hback : back.head?.all (· == chr '{')) :
    Reference.take? (front ++ chr '$' :: back) =
      (Reference.take? front).map fun found => (found.1, found.2 ++ chr '$' :: back) := by
  ext ⟨inner, rest⟩
  rw [Reference.take?_eq_some_iff, Option.map_eq_some_iff]
  constructor
  · rintro ⟨hinner, heq⟩
    obtain ⟨middle, rfl, rfl⟩ := exists_of_source_append hinner.braceless hback heq
    exact ⟨(inner, middle), Reference.take?_eq_some_iff.2 ⟨hinner, rfl⟩, rfl⟩
  · rintro ⟨⟨inner', middle⟩, hfound, heq⟩
    cases heq
    obtain ⟨hinner, rfl⟩ := Reference.take?_eq_some_iff.1 hfound
    exact ⟨hinner, List.append_assoc _ _ _⟩

/-- The text up to a dollar sign and the marker behind it are rendered apart. -/
theorem renderAll_dollar (hback : back.head?.all (· == chr '{')) :
    Segment.renderAll scope (Segment.ofText dollar (front ++ chr '$' :: back)) = do
      let a ← Segment.renderAll scope (Segment.ofText dollar (front ++ [chr '$']))
      let b ← Segment.renderAll scope (Segment.ofText true back)
      return a ++ b := by
  have hjoin : ∀ x a b : Rendering, x ++ a ++ b = x ++ (a ++ b) := Rendering.append_assoc
  -- By the scan of the text in front, where each reference ends before the dollar sign.
  fun_induction Segment.ofText dollar front with
  | case1 dollar =>
    have hkeeps : ∀ s, Segment.Keeps scope ['$'] (Segment.ofText dollar ('$' :: s))
        (Segment.ofText true s) := fun s => keeps_cons_of_ne (.inl (by decide))
    rw [List.nil_append, List.nil_append, hkeeps back, hkeeps [], Segment.ofText, renderAll_nil]
    cases Segment.renderAll scope (Segment.ofText true back) <;> rfl
  | case2 dollar c s first rest h _ ih =>
    cases dollar with
    | true => cases h
    | false =>
      have hfound : ∀ back : Text, back.head?.all (· == chr '{') →
          Segment.ofText false (c :: s ++ chr '$' :: back) =
            .reference first :: Segment.ofText false (rest ++ chr '$' :: back) := by
        intro back hback
        refine Segment.ofText_of_take? ?_
        rw [take?_append_dollar hback, show Reference.take? (c :: s) = some (first, rest) from h]
        rfl
      rw [hfound back hback, hfound [] rfl, renderAll_cons, renderAll_cons, ih]
      simp only [bind_assoc, pure_bind, hjoin]
  | case3 dollar c s h ih =>
    have hkeeps : ∀ back : Text, back.head?.all (· == chr '{') →
        Segment.Keeps scope [c] (Segment.ofText dollar (c :: s ++ chr '$' :: back))
          (Segment.ofText (c == '$') (s ++ chr '$' :: back)) := by
      intro back hback
      refine keeps_cons ?_
      show (if dollar then none else Reference.take? (c :: s ++ chr '$' :: back)) = none
      rw [take?_append_dollar hback]
      cases dollar with
      | true => rfl
      | false =>
        rw [show Reference.take? (c :: s) = none from h]
        rfl
    rw [hkeeps back hback, hkeeps [] rfl, ih]
    cases Segment.renderAll scope (Segment.ofText (c == '$') (s ++ [chr '$'])) with
    | error e => rfl
    | ok a =>
      cases Segment.renderAll scope (Segment.ofText true back) with
      | error e => rfl
      | ok b => exact congrArg Except.ok (hjoin _ a b).symm

end Dollar

end Segments

/-! ## Texts -/

section Texts

variable {scope : Scope} {body front inner back : Text} {r : Rendering}

theorem renderText_eq_ok_iff :
    renderText scope body = .ok r ↔
      ∃ x, Segment.renderAll scope (Segment.ofText false body) = .ok x ∧
        r.text = x.text ∧ r.directives = x.directives ∧
        r.warnings = (includes body).map .includeUnsupported ++ x.warnings := by
  rw [renderText_eq, bind_eq_ok_iff]
  refine exists_congr fun x => and_congr_right fun _ => ?_
  rw [pure_eq_ok_iff, eq_comm]
  simp [Rendering.ext_iff]

theorem exists_renderText {x : Rendering}
    (h : Segment.renderAll scope (Segment.ofText false body) = .ok x) :
    ∃ a, renderText scope body = .ok a ∧ a.text = x.text ∧ a.directives = x.directives := by
  refine ⟨⟨x.text, x.directives, (includes body).map .includeUnsupported ++ x.warnings⟩, ?_,
    rfl, rfl⟩
  exact renderText_eq_ok_iff.2 ⟨x, h, rfl, rfl, rfl⟩

theorem renderText_iff :
    renderText scope body = .ok r ↔
      ∃ parts, Resolves scope (references body) parts ∧
        Text.patched? 0 body (List.zipWith Reference.patch (references body) parts) =
          some r.text ∧
        r.directives = (references body).length ∧
        r.warnings = (includes body).map .includeUnsupported ++ parts.flatMap (·.warnings) := by
  simp only [renderText_eq_ok_iff, @renderAll_iff _ _ _ 0, Segment.flatMap_source_ofText]
  constructor
  · rintro ⟨x, ⟨parts, hparts, hx⟩, htext, hcount, hwarnings⟩
    rw [hx.warnings] at hwarnings
    exact ⟨parts, hparts, htext ▸ hx.text, hcount.trans hx.directives, hwarnings⟩
  · rintro ⟨parts, hparts, htext, hcount, hwarnings⟩
    exact ⟨⟨r.text, r.directives, parts.flatMap (·.warnings)⟩,
      ⟨parts, hparts, htext, hcount, rfl⟩, rfl, rfl, hwarnings⟩

theorem renderText_dollar (h : Braceless inner)
    (hr : renderText scope
      (front ++ chr '$' :: ((Segment.reference inner).source ++ back)) = .ok r) :
    ∃ a b, renderText scope (front ++ [chr '$']) = .ok a ∧ renderText scope back = .ok b ∧
      r.text = a.text ++ (Segment.reference inner).source ++ b.text ∧
      r.directives = a.directives + b.directives := by
  obtain ⟨x, hx, htext, hcount, -⟩ := renderText_eq_ok_iff.1 hr
  rw [renderAll_dollar rfl, keeps_behind_dollar h] at hx
  obtain ⟨a, ha, hx⟩ := bind_eq_ok_iff.1 hx
  obtain ⟨y, hy, hx⟩ := bind_eq_ok_iff.1 hx
  obtain ⟨b, hb, rfl⟩ := map_eq_ok_iff.1 hy
  obtain rfl := pure_eq_ok_iff.1 hx
  obtain ⟨u, hu, hutext, hucount⟩ := exists_renderText ha
  obtain ⟨v, hv, hvtext, hvcount⟩ := exists_renderText hb
  refine ⟨u, v, hu, hv, ?_, ?_⟩
  · rw [htext, hutext, hvtext]
    exact (List.append_assoc a.text _ b.text).symm
  · rw [hcount, hucount, hvcount]
    exact congrArg (a.directives + ·) (Nat.zero_add b.directives)

theorem isAboutText_of_renderText (h : renderText scope body = .ok r) {w : Warning}
    (hw : w ∈ r.warnings) : w.IsAboutText := by
  obtain ⟨parts, hparts, -, -, hwarnings⟩ := renderText_iff.1 h
  rw [hwarnings, List.mem_append, List.mem_map, List.mem_flatMap] at hw
  obtain ⟨name, -, rfl⟩ | ⟨part, hpart, hw⟩ := hw
  · trivial
  · obtain ⟨found, -, hfound⟩ := exists_of_mem_mapM (mapM_eq_ok_iff.2 hparts) hpart
    exact isAboutText_of_render hfound hw

end Texts

/-- The references of a text are replaced at once, in every scope where each of them can be: the
slice of each gives way to what it becomes, and nothing that was put in is read again. All other
characters stay, and so does a marker behind a dollar sign. Each reference counts, and of the
warnings a template without blocks reports the first occurrences, as their messages show too. -/
theorem renderText_replaces (scope : Scope) (body : Text) :
    (∀ r, renderText scope body = .ok r ↔
      ∃ parts, Resolves scope (references body) parts ∧
        Text.patched? 0 body (List.zipWith Reference.patch (references body) parts) =
          some r.text ∧
        r.directives = (references body).length ∧
        r.warnings = (includes body).map .includeUnsupported ++ parts.flatMap (·.warnings)) ∧
    (∀ context r, scope = .base context → ¬HoldsToken body → renderText scope body = .ok r →
      render body context = .ok (.ofRendering body r) ∧
        (Rendered.ofRendering body r).warnings.map Warning.message =
          (r.warnings.map Warning.message).eraseDups) ∧
    ∀ front inner back r, Braceless inner →
      body = front ++ chr '$' :: ((Segment.reference inner).source ++ back) →
      renderText scope body = .ok r →
      ∃ a b, renderText scope (front ++ [chr '$']) = .ok a ∧ renderText scope back = .ok b ∧
        r.text = a.text ++ (Segment.reference inner).source ++ b.text ∧
        r.directives = a.directives + b.directives := by
  refine ⟨fun r => renderText_iff, ?_, ?_⟩
  · rintro context r rfl hplain hr
    obtain ⟨ns, hparse, -⟩ := exists_parse_of_not_holdsToken hplain
    have hnodes := renderNodes_of_not_holdsToken hplain hparse (.base context)
    refine ⟨render_of_parse hparse (hnodes.trans hr), map_eraseDups fun v hv w hw => ?_⟩
    exact Warning.message_inj (isAboutText_of_renderText hr hv) (isAboutText_of_renderText hr hw)
  · rintro front inner back r hinner rfl hr
    exact renderText_dollar hinner hr

theorem renderText_replaces_marker :
    let fields : Fields := [(text "a", .str (text "\x7b\x7bb\x7d\x7d"))]
    let body := text "\x7b\x7ba\x7d\x7d$\x7b\x7ba\x7d\x7d\x7b\x7bb\x7d\x7d\x7b\x7bb\x7d\x7d"
    let out := text "\x7b\x7bb\x7d\x7d$\x7b\x7ba\x7d\x7d"
    Resolves (.base fields) (references body)
        [.plain (text "\x7b\x7bb\x7d\x7d"), .warning (.pathNotFound (text "b")),
          .warning (.pathNotFound (text "b"))] ∧
      ¬HoldsToken body ∧ Braceless (text "a") ∧
      render body fields = .ok ⟨out, true, 3, [.pathNotFound (text "b")], []⟩ ∧
      ∃ a b, renderText (.base fields) (text "\x7b\x7ba\x7d\x7d$") = .ok a ∧
        renderText (.base fields) (text "\x7b\x7bb\x7d\x7d\x7b\x7bb\x7d\x7d") = .ok b ∧
        out = a.text ++ text "\x7b\x7ba\x7d\x7d" ++ b.text := by
  intro fields body out
  obtain ⟨hiff, hrender, hdollar⟩ := renderText_replaces (.base fields) body
  have hfound : references body = [(0, text "a"), (11, text "b"), (16, text "b")] := by
    simp only [body]
    cbv
  have hplain : ¬HoldsToken body := by decide +kernel
  have hparts : Resolves (.base fields) (references body)
      [.plain (text "\x7b\x7bb\x7d\x7d"), .warning (.pathNotFound (text "b")),
        .warning (.pathNotFound (text "b"))] := by
    rw [hfound]
    exact .cons rfl (.cons rfl (.cons rfl .nil))
  have hr : renderText (.base fields) body =
      .ok ⟨out, 3, [.pathNotFound (text "b"), .pathNotFound (text "b")]⟩ := by
    rw [hfound] at hiff hparts
    exact (hiff _).2 ⟨_, hparts, rfl, rfl, rfl⟩
  obtain ⟨hout, -⟩ := hrender fields _ rfl hplain hr
  obtain ⟨a, b, ha, hb, htext, -⟩ :=
    hdollar (text "\x7b\x7ba\x7d\x7d") (text "a") _ _ (by decide) rfl hr
  exact ⟨hparts, hplain, by decide, hout, a, b, ha, hb, htext⟩

end Stencil
