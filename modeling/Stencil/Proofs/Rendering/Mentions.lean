import Stencil.Proofs.Condition.Parts
import Stencil.Proofs.Template.Forest
import Stencil.Rendering

/-!
# What a template mentions

Two contexts that agree on every name that stands somewhere in a template are the same to it. Only
the size of a scope depends on its other names, and no path asks for it unless the template has the
word for sizes in it.
-/

namespace Stencil

open Outcome

variable {template : Text} {s t : Scope}

/-! ## Scopes -/

/-- Whether two scopes give the same values to all names that stand in a template. -/
def Scope.AgreeOn (template : Text) (s t : Scope) : Prop :=
  ∀ name, name <:+: template → s.get? name = t.get? name

/-- Whether no path of a template can ask for a size. -/
def Sizeless (template : Text) : Prop := ¬lengthName <:+: template

namespace Scope

theorem AgreeOn.loop (h : AgreeOn template s t) (e : Entry) :
    AgreeOn template (.loop s e) (.loop t e) := by
  intro name hname
  simp only [get?]
  split
  · rfl
  · exact h name hname

theorem AgreeOn.member? {part : Text} (h : AgreeOn template s t) (hsize : Sizeless template)
    (hpart : part <:+: template) : s.member? part = t.member? part := by
  have hne : part ≠ lengthName := by
    rintro rfl
    exact hsize hpart
  simp [Scope.member?, h part hpart, hne]

theorem AgreeOn.lookup {path : Text} (h : AgreeOn template s t) (hsize : Sizeless template)
    (hpath : path <:+: template) : s.lookup path = t.lookup path := by
  unfold Scope.lookup
  split
  · rfl
  · next first rest hsplit =>
    have hmem : first ∈ Text.splitOn '.' (Text.trim path) := by
      rw [hsplit]
      exact List.mem_cons_self
    have hfirst := (Text.isInfix_of_mem_splitOn hmem).trans (Text.isInfix_trim path)
    rw [h.member? hsize (hfirst.trans hpath)]

end Scope

/-! ## Conditions -/

section Agreeing

variable (h : s.AgreeOn template t) (hsize : Sizeless template)

include h hsize

theorem Term.holds_congr {term : Term} (hterm : ∀ part ∈ term.parts, part <:+: template) :
    term.holds s = term.holds t := by
  cases term with
  | truth path negated =>
    have hpath : path <:+: template := hterm path List.mem_cons_self
    simp only [Term.holds, h.lookup hsize hpath]
  | compare path op l =>
    have hpath : path <:+: template := hterm path List.mem_cons_self
    simp only [Term.holds, h.lookup hsize hpath]
  | member path l negated =>
    have hpath : path <:+: template := hterm path List.mem_cons_self
    simp only [Term.holds, h.lookup hsize hpath]

theorem allHold_congr {terms : List Term}
    (hterms : ∀ term ∈ terms, ∀ part ∈ term.parts, part <:+: template) :
    allHold s terms = allHold t terms := by
  induction terms with
  | nil => rfl
  | cons term terms ih =>
    obtain ⟨hterm, hterms⟩ := List.forall_mem_cons.1 hterms
    simp only [allHold, Term.holds_congr h hsize hterm, ih hterms]

theorem anyHolds_congr {terms : List Term}
    (hterms : ∀ term ∈ terms, ∀ part ∈ term.parts, part <:+: template) :
    anyHolds s terms = anyHolds t terms := by
  induction terms with
  | nil => rfl
  | cons term terms ih =>
    obtain ⟨hterm, hterms⟩ := List.forall_mem_cons.1 hterms
    simp only [anyHolds, Term.holds_congr h hsize hterm, ih hterms]

theorem Condition.holds_congr {argument : Text} {c : Condition}
    (hargument : argument <:+: template) (hc : Condition.read argument = .ok c) :
    c.holds s = c.holds t := by
  have hterms : ∀ term ∈ c.terms, ∀ part ∈ term.parts, part <:+: template := by
    intro term hterm part hpart
    exact (isInfix_of_read hc term hterm part hpart).trans hargument
  cases c with
  | single term => exact Term.holds_congr h hsize (hterms term List.mem_cons_self)
  | joined k terms =>
    cases k with
    | all => exact allHold_congr h hsize hterms
    | any => exact anyHolds_congr h hsize hterms

/-! ## Text -/

theorem Reference.render_congr {reference : Reference} (hpath : reference.path <:+: template) :
    reference.render s = reference.render t := by
  unfold Reference.render
  rw [h.lookup hsize hpath]

theorem Segment.render_congr {segment : Segment} (hsegment : segment.source <:+: template) :
    segment.render s = segment.render t := by
  cases segment with
  | plain body => rfl
  | reference inner =>
    have hinner : inner <:+: (Segment.reference inner).source := ⟨openBraces, closeBraces, rfl⟩
    have hpath := (Reference.isInfix_path inner).trans (hinner.trans hsegment)
    simp only [Segment.render, Reference.render_congr h hsize hpath]

theorem renderText_congr {body : Text} (hbody : body <:+: template) :
    renderText s body = renderText t body := by
  have hparts : (Segment.ofText false body).mapM (Segment.render s) =
      (Segment.ofText false body).mapM (Segment.render t) := by
    apply mapM_congr
    intro segment hsegment
    exact Segment.render_congr h hsize ((Segment.isInfix_source hsegment).trans hbody)
  unfold renderText
  rw [hparts]

/-! ## Nodes -/

theorem renderIf_congr {wanted : Bool} {tag : Tag} {argument : Text}
    {body : Scope → Except ConversionError Rendering} (hargument : argument <:+: template)
    (hbody : body s = body t) :
    renderIf wanted tag argument body s = renderIf wanted tag argument body t := by
  unfold renderIf
  split
  · rfl
  · next c hc => rw [Condition.holds_congr h hsize hargument hc, hbody]

end Agreeing

mutual

theorem Node.render_congr (hsize : Sizeless template) : (n : Node) → n.source <:+: template →
    ∀ s t : Scope, s.AgreeOn template t → n.render s = n.render t
  | .plain body => fun hn s t h => by
    rw [Node.source] at hn
    simp only [Node.render, renderText_congr h hsize hn]
  | .block tag inner children closing => fun hn s t h => by
    rw [Node.source] at hn
    have hchildren : Node.sources children <:+: template := List.IsInfix.trans ⟨_, _, rfl⟩ hn
    have hargument : Text.trim inner <:+: template := by
      refine (Text.isInfix_trim inner).trans (List.IsInfix.trans ?_ hn)
      refine ⟨openBraces ++ [chr '#'] ++ tag.name,
        closeBraces ++ Node.sources children ++ (Token.closing tag closing).source, ?_⟩
      simp [Token.source]
    have hbody := renderNodes_congr hsize children hchildren
    cases tag with
    | region => simp only [Node.render, hbody s t h]
    | when => simp only [Node.render, renderIf_congr h hsize hargument (hbody s t h)]
    | whenNot => simp only [Node.render, renderIf_congr h hsize hargument (hbody s t h)]
    | each =>
      have hturns : ∀ entries : List Entry,
          (entries.mapM fun entry => renderNodes children (.loop s entry)) =
            entries.mapM fun entry => renderNodes children (.loop t entry) := by
        intro entries
        apply mapM_congr
        intro entry _
        exact hbody _ _ (h.loop entry)
      simp only [Node.render, h.lookup hsize hargument, hturns]

theorem renderNodes_congr (hsize : Sizeless template) : (ns : List Node) →
    Node.sources ns <:+: template → ∀ s t : Scope, s.AgreeOn template t →
      renderNodes ns s = renderNodes ns t
  | [] => fun _ s t _ => rfl
  | n :: ns => fun hns s t h => by
    rw [Node.sources] at hns
    have hn : n.source <:+: template := List.IsInfix.trans ⟨[], _, rfl⟩ hns
    have hrest : Node.sources ns <:+: template :=
      List.IsInfix.trans ⟨n.source, [], List.append_nil _⟩ hns
    simp only [renderNodes, Node.render_congr hsize n hn s t h,
      renderNodes_congr hsize ns hrest s t h]

end

/-! ## The whole run -/

/-- A template that never asks for a size is rendered alike, or stopped by the same error, in all
contexts that agree on the names that stand in it. What else a context holds does not matter, nor
does the order of its names. -/
theorem render_eq_of_agree (template : Text) (a b : Fields) (hsize : Sizeless template)
    (h : ∀ name, name <:+: template → Fields.get? name a = Fields.get? name b) :
    render template a = render template b := by
  unfold render
  split
  · rfl
  · next ns hparse =>
    have hsources : Node.sources ns <:+: template := by
      rw [sources_of_parse hparse]
    have hagree : (Scope.base a).AgreeOn template (.base b) := h
    rw [renderNodes_congr hsize ns hsources _ _ hagree]

theorem render_eq_of_agree_secret :
    render (text "\x7b\x7b#each xs\x7d\x7d\x7b\x7bsign\x7d\x7d\x7b\x7b/each\x7d\x7d")
        [(text "xs", .list [.null]), (text "sign", .str (text "*"))] =
      render (text "\x7b\x7b#each xs\x7d\x7d\x7b\x7bsign\x7d\x7d\x7b\x7b/each\x7d\x7d")
        [(text "secret", .int 7), (text "sign", .str (text "*")), (text "xs", .list [.null])] := by
  have hsize : Sizeless
      (text "\x7b\x7b#each xs\x7d\x7d\x7b\x7bsign\x7d\x7d\x7b\x7b/each\x7d\x7d") := by
    unfold Sizeless
    decide
  refine render_eq_of_agree _ _ _ hsize fun name hname => ?_
  have hsecret : text "secret" ≠ name := by
    rintro rfl
    revert hname
    decide
  by_cases hxs : text "xs" = name
  · subst hxs
    rfl
  · by_cases hsign : text "sign" = name
    · subst hsign
      rfl
    · simp [Fields.get?, hsecret, hxs, hsign]

end Stencil
