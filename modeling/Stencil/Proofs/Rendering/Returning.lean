import Mathlib
import Stencil.Proofs.Condition.Parts
import Stencil.Proofs.Scope
import Stencil.Proofs.Template.Forest
import Stencil.Rendering

/-!
# Renderings that return

Four conversions can stop a run: an index with digits that are not decimal, one with too many
digits, a number with separators at its ends, and an integer that is too long to be written. Where
the template and the context hold none of them, every run returns.
-/

namespace Stencil

open Outcome Numeral

/-! ## Conditions -/

variable {scope : Scope} {l : Literal}

namespace Literal

theorem number_returns (hl : l.text.Tame) : Returns (number l.text) fun _ => True :=
  Numeral.number_returns hl.unseparated.isClean

theorem equals_returns {v? : Option Value} (hv : ∀ v ∈ v?, v.isTame = true) (hl : l.text.Tame) :
    Returns (l.equals v?) fun _ => True := by
  unfold equals
  refine (Value.written_returns hv).bind fun body hbody => ?_
  split
  · exact .pure trivial
  · refine (Numeral.number_returns hbody).bind fun left _ => ?_
    refine (number_returns hl).bind fun right _ => ?_
    split
    · exact .pure trivial
    · exact .pure trivial

theorem ordered_returns {op : Comparison} {v? : Option Value} (hv : ∀ v ∈ v?, v.isTame = true)
    (hl : l.text.Tame) : Returns (l.ordered op v?) fun _ => True := by
  unfold ordered
  split
  · exact .pure trivial
  · refine (Value.written_returns hv).bind fun body hbody => ?_
    refine (Numeral.number_returns hbody).bind fun left _ => ?_
    refine (number_returns hl).bind fun right _ => ?_
    split
    · exact .pure trivial
    · exact .pure trivial

theorem isAmong_returns {items : List Value} (hv : Value.itemsTame items = true)
    (hl : l.text.Tame) : Returns (l.isAmong items) fun _ => True := by
  induction items with
  | nil => exact .pure trivial
  | cons v vs ih =>
    rw [Value.itemsTame, Bool.and_eq_true] at hv
    unfold isAmong
    refine (equals_returns (fun w hw => by cases hw; exact hv.1) hl).bind fun equal _ => ?_
    split
    · exact .pure trivial
    · exact ih hv.2

theorem isMember_returns {v? : Option Value} (hv : ∀ v ∈ v?, v.isTame = true)
    (hl : l.text.Tame) : Returns (l.isMember v?) fun _ => True := by
  unfold isMember
  split
  · next items =>
    have hitems := hv _ rfl
    rw [Value.isTame, Bool.and_eq_true] at hitems
    exact isAmong_returns hitems.1 hl
  · exact .pure trivial
  · exact .pure trivial
  · exact .pure trivial

end Literal

theorem Term.holds_returns {t : Term} (h : scope.isTame = true)
    (ht : ∀ part ∈ t.parts, part.Tame) : Returns (t.holds scope) fun _ => True := by
  cases t with
  | truth path negated =>
    simp only [parts, List.forall_mem_cons] at ht
    exact (Scope.lookup_returns h ht.1).bind fun v? _ => .pure trivial
  | compare path op l =>
    simp only [parts, List.forall_mem_cons] at ht
    refine (Scope.lookup_returns h ht.1).bind fun v? hv => ?_
    split
    · exact Literal.equals_returns hv ht.2.1
    · exact (Literal.equals_returns hv ht.2.1).bind fun _ _ => .pure trivial
    · exact Literal.ordered_returns hv ht.2.1
  | member path l negated =>
    simp only [parts, List.forall_mem_cons] at ht
    refine (Scope.lookup_returns h ht.1).bind fun v? hv => ?_
    exact (Literal.isMember_returns hv ht.2.1).bind fun _ _ => .pure trivial

theorem allHold_returns {ts : List Term} (h : ∀ t ∈ ts, Returns (t.holds scope) fun _ => True) :
    Returns (allHold scope ts) fun _ => True := by
  induction ts with
  | nil => exact .pure trivial
  | cons t ts ih =>
    obtain ⟨ht, hts⟩ := List.forall_mem_cons.1 h
    unfold allHold
    refine ht.bind fun _ _ => ?_
    split
    · exact ih hts
    · exact .pure trivial

theorem anyHolds_returns {ts : List Term} (h : ∀ t ∈ ts, Returns (t.holds scope) fun _ => True) :
    Returns (anyHolds scope ts) fun _ => True := by
  induction ts with
  | nil => exact .pure trivial
  | cons t ts ih =>
    obtain ⟨ht, hts⟩ := List.forall_mem_cons.1 h
    unfold anyHolds
    refine ht.bind fun _ _ => ?_
    split
    · exact .pure trivial
    · exact ih hts

theorem Condition.holds_returns {e : Text} {c : Condition} (h : scope.isTame = true) (he : e.Tame)
    (hc : Condition.read e = .ok c) : Returns (c.holds scope) fun _ => True := by
  have hterms : ∀ t ∈ c.terms, Returns (t.holds scope) fun _ => True := fun t ht =>
    Term.holds_returns h fun part hpart => he.part (isInfix_of_read hc t ht part hpart)
  cases c with
  | single t => exact hterms t (List.mem_singleton_self t)
  | joined k ts =>
    cases k with
    | all => exact allHold_returns hterms
    | any => exact anyHolds_returns hterms

/-! ## References -/

theorem Transform.fault?_eq_none (t : Transform) {v : Value} (hv : v.isTame = true) :
    t.fault? v = none := by
  have hpicked : ∀ pick : List Value → Option Value, (∀ items, ∀ w ∈ pick items, w ∈ items) →
      ∀ items, v = .list items → (pick items).bind Value.textFault? = none := by
    rintro pick hpick items rfl
    rw [Value.isTame, Bool.and_eq_true] at hv
    cases hw : pick items with
    | none => rfl
    | some w => exact Value.textFault?_eq_none w (Value.itemsTame_iff.1 hv.1 w (hpick items w hw))
  unfold fault?
  split
  · rfl
  · rfl
  · exact hpicked _ (fun _ _ hw => List.mem_of_mem_head? hw) _ rfl
  · exact hpicked _ (fun _ _ hw => List.mem_of_mem_getLast? hw) _ rfl
  · exact Value.jsonFault?_eq_none v hv
  · exact Value.textFault?_eq_none v hv

theorem Reference.render_returns {r : Reference} (h : scope.isTame = true) (hr : r.path.Tame) :
    Returns (r.render scope) fun _ => True := by
  unfold Reference.render
  refine (Scope.lookup_returns h hr).bind fun v? hv => ?_
  split
  · exact .pure trivial
  · next v =>
    have hwritten := Value.written_returns hv
    split
    · exact hwritten.bind fun _ _ => .pure trivial
    · split
      · exact hwritten.bind fun _ _ => .pure trivial
      · split
        · exact hwritten.bind fun _ _ => .pure trivial
        · next t ht =>
          unfold Transform.rendered
          rw [Transform.fault?_eq_none t (hv v rfl)]
          exact .pure trivial

theorem Segment.render_returns {segment : Segment} (h : scope.isTame = true)
    (hs : segment.source.Tame) : Returns (segment.render scope) fun _ => True := by
  cases segment with
  | plain body => exact .pure trivial
  | reference inner =>
    have hinner : inner <:+: (reference inner).source := ⟨openBraces, closeBraces, rfl⟩
    have hpath := hs.part ((Reference.isInfix_path inner).trans hinner)
    exact (Reference.render_returns h hpath).bind fun _ _ => .pure trivial

theorem renderText_returns {body : Text} (h : scope.isTame = true) (hbody : body.Tame) :
    Returns (renderText scope body) fun _ => True := by
  have hsegments : ∀ segment ∈ Segment.ofText false body,
      Returns (segment.render scope) fun _ => True := fun segment hsegment =>
    Segment.render_returns h (hbody.part (Segment.isInfix_source hsegment))
  unfold renderText
  exact (Returns.mapM hsegments).bind fun _ _ => .pure trivial

/-! ## Nodes -/

theorem renderIf_returns {wanted : Bool} {tag : Tag} {argument : Text}
    {body : Scope → Except ConversionError Rendering} (h : scope.isTame = true)
    (hargument : argument.Tame) (hbody : Returns (body scope) fun _ => True) :
    Returns (renderIf wanted tag argument body scope) fun _ => True := by
  unfold renderIf
  split
  · exact .pure trivial
  · next condition hcondition =>
    refine (Condition.holds_returns h hargument hcondition).bind fun _ _ => ?_
    split
    · exact hbody
    · exact .pure trivial

mutual

theorem Node.render_returns : (n : Node) → n.source.Tame → ∀ scope : Scope, scope.isTame = true →
    Returns (n.render scope) fun _ => True
  | .plain body => fun hn scope h => by
    rw [Node.source] at hn
    rw [Node.render]
    exact renderText_returns h hn
  | .block tag inner children closing => fun hn scope h => by
    rw [Node.source] at hn
    have hchildren : (Node.sources children).Tame := hn.part ⟨_, _, rfl⟩
    have hinner : inner.Tame := by
      refine hn.part ⟨openBraces ++ [chr '#'] ++ tag.name,
        closeBraces ++ Node.sources children ++ (Token.closing tag closing).source, ?_⟩
      simp [Token.source]
    have hargument : (Text.trim inner).Tame := hinner.part (Text.isInfix_trim inner)
    have hbody := renderNodes_returns children hchildren
    cases tag with
    | region =>
      rw [Node.render]
      exact (hbody scope h).bind fun _ _ => .pure trivial
    | each =>
      rw [Node.render]
      refine (Scope.lookup_returns h hargument).bind fun v? hv => ?_
      have hturns : ∀ e ∈ (v?.map Entry.ofValue).getD [],
          Returns (renderNodes children (.loop scope e)) fun _ => True := by
        intro e he
        cases v? with
        | none => cases he
        | some v =>
          -- The scope of a turn is the outer one with an entry of the value in front.
          refine hbody _ ?_
          rw [Scope.isTame, h, Entry.isTame_of_mem_ofValue (hv v rfl) he, Bool.and_true]
      refine (Returns.mapM hturns).bind fun _ _ => ?_
      exact .pure trivial
    | when =>
      rw [Node.render]
      exact (renderIf_returns h hargument (hbody scope h)).bind fun _ _ => .pure trivial
    | whenNot =>
      rw [Node.render]
      exact (renderIf_returns h hargument (hbody scope h)).bind fun _ _ => .pure trivial

theorem renderNodes_returns : (ns : List Node) → (Node.sources ns).Tame → ∀ scope : Scope,
    scope.isTame = true → Returns (renderNodes ns scope) fun _ => True
  | [] => fun _ scope _ => .pure trivial
  | n :: ns => fun hns scope h => by
    rw [Node.sources] at hns
    have hn := hns.part ⟨[], Node.sources ns, rfl⟩
    have hrest := hns.part ⟨n.source, [], List.append_nil _⟩
    rw [renderNodes]
    refine (Node.render_returns n hn scope h).bind fun _ _ => ?_
    exact (renderNodes_returns ns hrest scope h).bind fun _ _ => .pure trivial

end

/-! ## The whole run -/

/-- A run over a tame template in a tame context returns. -/
theorem exists_rendered (template : Text) (context : Fields) (ht : template.Tame)
    (hc : (Scope.base context).isTame = true) : ∃ r, render template context = .ok r := by
  unfold render
  split
  · exact ⟨_, rfl⟩
  · next ns hparse =>
    rw [← sources_of_parse hparse] at ht
    obtain ⟨r, hr, -⟩ := renderNodes_returns ns ht _ hc
    rw [hr]
    exact ⟨_, rfl⟩

theorem exists_rendered_item :
    ∃ r, render (text "\x7b\x7bitems.0\x7d\x7d") [(text "items", .list [.int 1])] = .ok r := by
  have ht : Text.Tame (text "\x7b\x7bitems.0\x7d\x7d") := .of_all (by decide +kernel) (by decide)
  exact exists_rendered _ _ ht (by decide +kernel)

/-- A superscript is a digit, so it is taken for an index, and no number can be read from it. -/
theorem render_superscript :
    render (text "\x7b\x7bitems.²\x7d\x7d") [(text "items", .list [.int 1])] =
      .error (.notDecimal (text "²")) := by cbv

end Stencil
