import Mathlib.Algebra.Ring.Nat
import Stencil.Proofs.Outcome
import Stencil.Proofs.Template.Forest
import Stencil.Rendering

/-!
# Rendering part by part

What a template puts out is made of what its parts put out. A block counts as one directive and
puts out its inside, once, not at all or turn by turn, and the parts around it do not notice.
-/

namespace Stencil

open Outcome

/-! ## Joining renderings -/

namespace Rendering

theorem ext_iff {a b : Rendering} :
    a = b ↔ a.text = b.text ∧ a.directives = b.directives ∧ a.warnings = b.warnings := by
  cases a
  cases b
  simp

@[simp]
theorem text_append (a b : Rendering) : (a ++ b).text = a.text ++ b.text := rfl

@[simp]
theorem directives_append (a b : Rendering) :
    (a ++ b).directives = a.directives + b.directives := rfl

@[simp]
theorem warnings_append (a b : Rendering) : (a ++ b).warnings = a.warnings ++ b.warnings := rfl

theorem append_assoc (a b c : Rendering) : a ++ b ++ c = a ++ (b ++ c) := by
  simp [ext_iff, Nat.add_assoc]

theorem empty_append (a : Rendering) : empty ++ a = a := by
  simp [ext_iff, empty]

theorem append_empty (a : Rendering) : a ++ empty = a := by
  simp [ext_iff, empty]

theorem concat_eq (rs : List Rendering) :
    concat rs = ⟨rs.flatMap text, (rs.map directives).sum, rs.flatMap warnings⟩ := by
  induction rs with
  | nil => rfl
  | cons r rs ih =>
    have hcons : concat (r :: rs) = r ++ concat rs := rfl
    rw [hcons, ih]
    rfl

end Rendering

theorem renderNodes_append (ns ms : List Node) (scope : Scope) :
    renderNodes (ns ++ ms) scope = do
      let a ← renderNodes ns scope
      let b ← renderNodes ms scope
      return a ++ b := by
  induction ns with
  | nil =>
    simp only [List.nil_append, renderNodes]
    cases renderNodes ms scope with
    | error e => rfl
    | ok b => exact congrArg Except.ok (Rendering.empty_append b).symm
  | cons n ns ih =>
    simp only [List.cons_append, renderNodes, ih]
    cases n.render scope with
    | error e => rfl
    | ok a =>
      cases renderNodes ns scope with
      | error e => rfl
      | ok b =>
        cases renderNodes ms scope with
        | error e => rfl
        | ok c => exact congrArg Except.ok (Rendering.append_assoc a b c).symm

theorem renderNodes_append_iff {ns ms : List Node} {scope : Scope} {r : Rendering} :
    renderNodes (ns ++ ms) scope = .ok r ↔
      ∃ a b, renderNodes ns scope = .ok a ∧ renderNodes ms scope = .ok b ∧ r = a ++ b := by
  simp only [renderNodes_append, bind_eq_ok_iff, pure_eq_ok_iff]
  constructor
  · rintro ⟨a, ha, b, hb, rfl⟩
    exact ⟨a, b, ha, hb, rfl⟩
  · rintro ⟨a, b, ha, hb, rfl⟩
    exact ⟨a, ha, b, hb, rfl⟩

/-! ## What a block puts out -/

/-- How the condition of a block has to come out for its inside to be rendered. -/
def Tag.wanted? : Tag → Option Bool
  | .when => some true
  | .whenNot => some false
  | .each | .region => none

/-- Whether a value is neither null nor something to loop over. -/
def Value.isSingle : Value → Bool
  | .null | .list _ | .object _ => false
  | _ => true

/-- What a block puts out in a scope, by what its inside puts out in any. -/
inductive BlockPuts (inside : Scope → Except ConversionError Rendering) (scope : Scope)
    (argument : Text) : Tag → Rendering → Prop
  | region {x : Rendering} : inside scope = .ok x → BlockPuts inside scope argument .region x
  | taken {tag : Tag} {wanted : Bool} {condition : Condition} {x : Rendering} :
      tag.wanted? = some wanted → Condition.read argument = .ok condition →
      condition.holds scope = .ok wanted → inside scope = .ok x →
      BlockPuts inside scope argument tag x
  | skipped {tag : Tag} {wanted : Bool} {condition : Condition} :
      tag.wanted? = some wanted → Condition.read argument = .ok condition →
      condition.holds scope = .ok (!wanted) → BlockPuts inside scope argument tag ⟨[], 0, []⟩
  | invalid {tag : Tag} {wanted : Bool} {e : ConditionError} :
      tag.wanted? = some wanted → Condition.read argument = .error e →
      BlockPuts inside scope argument tag ⟨[], 0, [.invalidCondition tag argument e.fault]⟩
  | each {value : Option Value} {entries : List Entry} {turns : List Rendering} :
      scope.lookup argument = .ok value → scope.entries argument = .ok entries →
      List.Forall₂ (fun entry turn => inside (.loop scope entry) = .ok turn) entries turns →
      BlockPuts inside scope argument .each
        ⟨turns.flatMap (·.text), (turns.map (·.directives)).sum,
          (if value.any Value.isSingle then [.notIterable argument] else []) ++
            turns.flatMap (·.warnings)⟩

section Blocks

variable {inside : Scope → Except ConversionError Rendering} {scope : Scope} {argument : Text}

theorem renderIf_eq_ok_iff {tag : Tag} {wanted : Bool} {x : Rendering}
    (h : tag.wanted? = some wanted) :
    renderIf wanted tag argument inside scope = .ok x ↔ BlockPuts inside scope argument tag x := by
  unfold renderIf
  constructor
  · intro hrun
    cases hread : Condition.read argument with
    | error e =>
      rw [hread] at hrun
      cases hrun
      exact .invalid h hread
    | ok condition =>
      simp only [hread, bind_eq_ok_iff] at hrun
      obtain ⟨b, hb, hrun⟩ := hrun
      by_cases hwanted : b = wanted
      · subst hwanted
        rw [if_pos (beq_self_eq_true b)] at hrun
        exact .taken h hread hb hrun
      · rw [if_neg (by simpa using hwanted)] at hrun
        cases hrun
        rw [Bool.eq_not_of_ne hwanted] at hb
        exact .skipped h hread hb
  · intro hputs
    cases hputs with
    | region => cases h
    | each => cases h
    | taken h' hread hholds hx =>
      cases h.symm.trans h'
      simp [hread, hholds, hx, bind, Except.bind]
    | skipped h' hread hholds =>
      cases h.symm.trans h'
      simp [hread, hholds, bind, Except.bind, pure, Except.pure, Rendering.empty]
    | invalid h' hread =>
      simp [hread, Rendering.warning]

theorem entries_eq_ok_iff {entries : List Entry} :
    scope.entries argument = .ok entries ↔
      ∃ value, scope.lookup argument = .ok value ∧
        (value.map Entry.ofValue).getD [] = entries := by
  unfold Scope.entries
  simp only [bind_eq_ok_iff, pure_eq_ok_iff]
  apply exists_congr
  intro value
  cases value <;> rfl

theorem loopWarning_eq (value : Option Value) :
    loopWarning argument value =
      ⟨[], 0, if value.any Value.isSingle then [.notIterable argument] else []⟩ := by
  cases value with
  | none => rfl
  | some v => cases v <;> rfl

theorem eachPuts_iff {x : Rendering} :
    (∃ value, scope.lookup argument = .ok value ∧ ∃ turns,
      List.Forall₂ (fun entry turn => inside (.loop scope entry) = .ok turn)
        ((value.map Entry.ofValue).getD []) turns ∧
      loopWarning argument value ++ Rendering.concat turns = x) ↔
      BlockPuts inside scope argument .each x := by
  constructor
  · rintro ⟨value, hvalue, turns, hturns, rfl⟩
    have hentries := entries_eq_ok_iff.2 ⟨value, hvalue, rfl⟩
    have hall := BlockPuts.each hvalue hentries hturns
    rw [loopWarning_eq, Rendering.concat_eq]
    convert hall using 1
    simp [Rendering.ext_iff]
  · intro h
    cases h with
    | taken h => cases h
    | skipped h => cases h
    | invalid h => cases h
    | @each value entries turns hvalue hentries hturns =>
      obtain ⟨value', hvalue', rfl⟩ := entries_eq_ok_iff.1 hentries
      cases hvalue.symm.trans hvalue'
      refine ⟨value, hvalue, turns, hturns, ?_⟩
      rw [loopWarning_eq, Rendering.concat_eq]
      simp [Rendering.ext_iff]

end Blocks

theorem regionPuts_iff {inside : Scope → Except ConversionError Rendering} {scope : Scope}
    {argument : Text} {x : Rendering} :
    inside scope = .ok x ↔ BlockPuts inside scope argument .region x := by
  constructor
  · exact .region
  · intro h
    cases h with
    | region h => exact h
    | taken h => cases h
    | skipped h => cases h
    | invalid h => cases h

/-- A block is one directive, besides what it puts out. -/
theorem render_block_iff {tag : Tag} {inner closing : Text} {ns : List Node} {scope : Scope}
    {r : Rendering} :
    (Node.block tag inner ns closing).render scope = .ok r ↔
      ∃ x, BlockPuts (renderNodes ns) scope (Text.trim inner) tag x ∧ x.counted = r := by
  cases tag with
  | when =>
    simp only [Node.render, bind_eq_ok_iff, pure_eq_ok_iff]
    exact exists_congr fun x => and_congr_left' (renderIf_eq_ok_iff rfl)
  | whenNot =>
    simp only [Node.render, bind_eq_ok_iff, pure_eq_ok_iff]
    exact exists_congr fun x => and_congr_left' (renderIf_eq_ok_iff rfl)
  | region =>
    simp only [Node.render, bind_eq_ok_iff, pure_eq_ok_iff]
    exact exists_congr fun x => and_congr_left' regionPuts_iff
  | each =>
    simp only [Node.render, bind_eq_ok_iff, pure_eq_ok_iff, mapM_eq_ok_iff, ← eachPuts_iff]
    constructor
    · rintro ⟨value, hvalue, turns, hturns, x, hx, rfl⟩
      exact ⟨x, ⟨value, hvalue, turns, hturns, hx⟩, rfl⟩
    · rintro ⟨x, ⟨value, hvalue, turns, hturns, hx⟩, rfl⟩
      exact ⟨value, hvalue, turns, hturns, x, hx, rfl⟩

theorem renderNodes_cons_iff {n : Node} {ns : List Node} {scope : Scope} {r : Rendering} :
    renderNodes (n :: ns) scope = .ok r ↔
      ∃ a b, n.render scope = .ok a ∧ renderNodes ns scope = .ok b ∧ r = a ++ b := by
  simp only [renderNodes, bind_eq_ok_iff, pure_eq_ok_iff]
  constructor
  · rintro ⟨a, ha, b, hb, rfl⟩
    exact ⟨a, b, ha, hb, rfl⟩
  · rintro ⟨a, b, ha, hb, rfl⟩
    exact ⟨a, ha, b, hb, rfl⟩

theorem render_of_parse {template : Text} {ns : List Node} {context : Fields} {r : Rendering}
    (h : Node.parse template = .ok ns) (hr : renderNodes ns (.base context) = .ok r) :
    render template context = .ok (.ofRendering template r) := by
  simp only [render, h, hr]
  rfl

theorem Rendered.ofRendering_of_ne {template : Text} {r : Rendering} (h : r.directives ≠ 0) :
    ofRendering template r =
      ⟨Text.squeezeBlankLines r.text, true, r.directives, r.warnings.eraseDups, []⟩ := by
  simp [ofRendering, h]

theorem Rendering.append_counted_append (x y z : Rendering) :
    x ++ (y.counted ++ z) = ⟨x.text ++ y.text ++ z.text,
      x.directives + (1 + y.directives) + z.directives,
      x.warnings ++ y.warnings ++ z.warnings⟩ := by
  rw [Rendering.ext_iff]
  refine ⟨?_, ?_, ?_⟩
  · simp [Rendering.counted]
  · simp only [Rendering.directives_append, Rendering.counted]
    omega
  · simp [Rendering.counted]

theorem renderNodes_block_between_iff {as bs cs : List Node} {tag : Tag} {e closing : Text}
    {scope : Scope} {r : Rendering} :
    renderNodes (as ++ .block tag (' ' :: e) bs closing :: cs) scope = .ok r ↔
      ∃ x y z, renderNodes as scope = .ok x ∧
        BlockPuts (renderNodes bs) scope (Text.trim e) tag y ∧
        renderNodes cs scope = .ok z ∧
        r = ⟨x.text ++ y.text ++ z.text, x.directives + (1 + y.directives) + z.directives,
          x.warnings ++ y.warnings ++ z.warnings⟩ := by
  simp only [renderNodes_append_iff, renderNodes_cons_iff, render_block_iff, Text.trim_space]
  constructor
  · rintro ⟨x, -, hx, ⟨-, z, ⟨y, hy, rfl⟩, hz, rfl⟩, rfl⟩
    exact ⟨x, y, z, hx, hy, hz, Rendering.append_counted_append x y z⟩
  · rintro ⟨x, y, z, hx, hy, hz, rfl⟩
    refine ⟨x, y.counted ++ z, hx, ⟨y.counted, z, ⟨y, hy, rfl⟩, hz, rfl⟩, ?_⟩
    exact (Rendering.append_counted_append x y z).symm

/-- A template with a block between two others puts out what the three parts put out. The block
counts as one directive, and each warning of the three is kept once. -/
theorem render_block_between {a b c e : Text} {as bs cs : List Node} (tag : Tag)
    (ha : Node.parse a = .ok as) (hb : Node.parse b = .ok bs) (hc : Node.parse c = .ok cs)
    (he : Braceless e) :
    ∃ ns, Node.parse (a ++ (Token.opening tag (' ' :: e)).source ++ b ++
        (Token.closing tag []).source ++ c) = .ok ns ∧
      (∀ scope r, renderNodes ns scope = .ok r ↔
        ∃ x y z, renderNodes as scope = .ok x ∧
          BlockPuts (renderNodes bs) scope (Text.trim e) tag y ∧
          renderNodes cs scope = .ok z ∧
          r = ⟨x.text ++ y.text ++ z.text, x.directives + (1 + y.directives) + z.directives,
            x.warnings ++ y.warnings ++ z.warnings⟩) ∧
      ∀ context r, renderNodes ns (.base context) = .ok r →
        render (a ++ (Token.opening tag (' ' :: e)).source ++ b ++
          (Token.closing tag []).source ++ c) context =
            .ok ⟨Text.squeezeBlankLines r.text, true, r.directives, r.warnings.eraseDups, []⟩ := by
  have hparse := @parse_block_between a b c as bs cs tag _ _ ha hb hc (isInner_space he) isInner_nil
  refine ⟨_, hparse, fun scope r => renderNodes_block_between_iff, ?_⟩
  intro context r hr
  have hcount : r.directives ≠ 0 := by
    obtain ⟨x, y, z, -, -, -, rfl⟩ := renderNodes_block_between_iff.1 hr
    simp only
    omega
  rw [render_of_parse hparse hr, Rendered.ofRendering_of_ne hcount]

theorem render_block_between_names :
    render (text "To \x7b\x7b#each names\x7d\x7d\x7b\x7bitem\x7d\x7d,\x7b\x7b/each\x7d\x7d!")
      [(text "names", .list [.str (text "Ann"), .str (text "Bo")])] =
        .ok ⟨text "To Ann,Bo,!", true, 3, [], []⟩ := by
  have hfront : Node.parse (text "To ") = .ok [.plain (text "To ")] := by cbv
  have hinside : Node.parse (text "\x7b\x7bitem\x7d\x7d,") =
      .ok [.plain (text "\x7b\x7bitem\x7d\x7d,")] := by cbv
  have hback : Node.parse (text "!") = .ok [.plain (text "!")] := by cbv
  have he : Braceless (text "names") := by decide
  obtain ⟨ns, -, hiff, hrender⟩ := render_block_between .each hfront hinside hback he
  have hloop := @BlockPuts.each (renderNodes [.plain (text "\x7b\x7bitem\x7d\x7d,")])
    (.base [(text "names", .list [.str (text "Ann"), .str (text "Bo")])]) (text "names")
    (some (.list [.str (text "Ann"), .str (text "Bo")])) _
    [⟨text "Ann,", 1, []⟩, ⟨text "Bo,", 1, []⟩] rfl rfl (.cons (by cbv) (.cons (by cbv) .nil))
  exact hrender _ ⟨text "To Ann,Bo,!", 3, []⟩
    ((hiff _ _).2 ⟨⟨text "To ", 0, []⟩, _, ⟨text "!", 0, []⟩, by cbv, hloop, by cbv, rfl⟩)

end Stencil
