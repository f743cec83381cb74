import Stencil.Proofs.Condition.Pieces
import Stencil.Proofs.Rendering.Counting
import Stencil.Proofs.Text.Parts

/-!
# Nested blocks

A block with joined terms puts out what a block for each term puts out, one inside the other: both
ask the terms in order and stop at the first that does not come out as it has to.
-/

namespace Stencil

open Text

/-! ## Texts without braces -/

theorem isBrace_of_isBlank {c : CodePoint} (h : isBlank c) : isBrace c = false := by
  by_contra hbrace
  have hends : c = '{' ∨ c = '}' := by simpa [isBrace, or_iff_not_imp_left] using hbrace
  obtain rfl | rfl := hends <;> cases h

theorem Braceless.of_isInfix {s piece : Text} (h : Braceless s) (hpiece : piece <:+: s) :
    Braceless piece :=
  fun c hc => h c (hpiece.subset hc)

theorem braceless_of_trim {s : Text} (h : Braceless (trim s)) : Braceless s := by
  obtain ⟨w, w', hw, hw', hs⟩ := exists_trim s
  rw [hs]
  intro c hc
  simp only [List.mem_append] at hc
  obtain (hc | hc) | hc := hc
  · exact isBrace_of_isBlank (hw c hc)
  · exact h c hc
  · exact isBrace_of_isBlank (hw' c hc)

/-! ## The pieces of a condition -/

namespace Condition

def pieces (e : Text) : List Text :=
  (splitTerms none (trim e)).1 :: (splitTerms none (trim e)).2.map Prod.snd

theorem isInfix_of_mem_pieces {e piece : Text} (h : piece ∈ pieces e) : piece <:+: e := by
  refine List.IsInfix.trans ?_ (isInfix_trim e)
  obtain rfl | h := List.mem_cons.1 h
  · exact (isPrefix_splitTerms none (trim e)).isInfix
  · obtain ⟨other, hother, rfl⟩ := List.mem_map.1 h
    exact isInfix_of_mem_splitTerms hother

theorem uncut_of_mem_pieces {e piece : Text} (h : piece ∈ pieces e) : Uncut piece := by
  obtain rfl | h := List.mem_cons.1 h
  · exact splitTerms_first none (trim e)
  · obtain ⟨other, hother, rfl⟩ := List.mem_map.1 h
    exact uncut_of_mem_splitTerms hother

theorem read_congr {s s' : Text} (h : trim s = trim s') {c : Condition} :
    read s = .ok c ↔ read s' = .ok c := by
  rw [read, read, Outcome.mapError_eq_ok_iff, Outcome.mapError_eq_ok_iff, h]

theorem forall₂_read_trim {ss : List Text} {ts : List Term} :
    List.Forall₂ (fun s t => read s = .ok (.single t)) (ss.map trim) ts ↔
      List.Forall₂ (fun s t => read s = .ok (.single t)) ss ts := by
  simp only [List.forall₂_map_left_iff, read_congr (trim_trim _)]

theorem read_pieces {e : Text} {op : Combinator} {ts : List Term}
    (h : read e = .ok (.joined op ts)) :
    List.Forall₂ (fun piece t => read piece = .ok (.single t)) (pieces e) ts := by
  have htrim : read (trim e) = .ok (.joined op ts) := (read_congr (trim_trim e)).2 h
  have hterms := (read_eq_joined_iff.1 htrim).1.2
  have hall : ∀ piece ∈ pieces e, Uncut piece := fun piece => uncut_of_mem_pieces
  refine ((List.forall₂_and_left _ _).2 ⟨hall, hterms⟩).imp fun piece t => ?_
  exact read_eq_single_iff.2

section Padded

variable {e : Text} {ss : List Text} (hss : ss.map trim = (pieces e).map trim)
include hss

theorem read_of_trim_eq {op : Combinator} {ts : List Term} (h : read e = .ok (.joined op ts)) :
    List.Forall₂ (fun s t => read s = .ok (.single t)) ss ts := by
  rw [← forall₂_read_trim, hss, forall₂_read_trim]
  exact read_pieces h

theorem braceless_of_trim_eq (h : Braceless e) : ∀ s ∈ ss, Braceless s := by
  intro s hs
  obtain ⟨piece, hpiece, htrim⟩ := List.mem_map.1 (hss ▸ List.mem_map_of_mem (f := trim) hs)
  apply braceless_of_trim
  rw [← htrim]
  exact h.of_isInfix ((isInfix_trim piece).trans (isInfix_of_mem_pieces hpiece))

end Padded

end Condition

/-! ## One block -/

def blockAround (tag : Tag) (argument body : Text) : Text :=
  (Token.opening tag (' ' :: argument)).source ++ body ++ (Token.closing tag []).source

def nodeAround (tag : Tag) (argument : Text) (inside : List Node) : List Node :=
  [.block tag (' ' :: argument) inside []]

theorem parse_blockAround {tag : Tag} {argument body : Text} {inside : List Node}
    (he : Braceless argument) (hb : Node.parse body = .ok inside) :
    Node.parse (blockAround tag argument body) = .ok (nodeAround tag argument inside) := by
  have h := @parse_block_between [] body [] [] inside [] tag _ _ parse_nil hb parse_nil
    (isInner_space he) isInner_nil
  simpa [blockAround, nodeAround] using h

/-- The block that is rendered only if all of some terms hold, or none of them. -/
def Combinator.tag : Combinator → Tag
  | all => .when
  | any => .whenNot

/-- How each term has to come out for the inside of that block to be rendered. -/
def Combinator.wanted : Combinator → Bool
  | all => true
  | any => false

def Rendering.shown (r : Rendering) : Text × List Warning := (r.text, r.warnings)

/-- What is shown if a question comes out as wanted; if it does not, nothing is. -/
def shownIf (wanted : Bool) (answer : Except ConversionError Bool)
    (inside : Except ConversionError (Text × List Warning)) :
    Except ConversionError (Text × List Warning) := do
  if (← answer) == wanted then inside else return ([], [])

section Asking

variable {wanted : Bool} {scope : Scope} {inside : Except ConversionError (Text × List Warning)}

theorem shownIf_wanted : shownIf wanted (.ok wanted) inside = inside := by
  cases wanted <;> rfl

theorem shownIf_unwanted : shownIf wanted (.ok !wanted) inside = .ok ([], []) := by
  cases wanted <;> rfl

theorem shown_renderIf {tag : Tag} {argument : Text} {c : Condition}
    (hread : Condition.read argument = .ok c) (body : Scope → Except ConversionError Rendering) :
    (renderIf wanted tag argument body scope).map Rendering.shown =
      shownIf wanted (c.holds scope) ((body scope).map Rendering.shown) := by
  simp only [renderIf, hread]
  cases c.holds scope with
  | error e => rfl
  | ok answer =>
    by_cases h : answer = wanted
    · subst h
      simp only [shownIf_wanted, bind, Except.bind, beq_self_eq_true, if_true]
    · obtain rfl := Bool.eq_not_of_ne h
      rw [shownIf_unwanted]
      cases wanted <;> rfl

end Asking

theorem shown_nodeAround {op : Combinator} {s : Text} {c : Condition}
    (hread : Condition.read s = .ok c) (inside : List Node) (scope : Scope) :
    (renderNodes (nodeAround op.tag s inside) scope).map Rendering.shown =
      shownIf op.wanted (c.holds scope) ((renderNodes inside scope).map Rendering.shown) := by
  have htrim : Condition.read (trim (' ' :: s)) = .ok c := by
    rwa [trim_space, Condition.read_congr (trim_trim s)]
  have hrender : (Node.block op.tag (' ' :: s) inside []).render scope =
      (renderIf op.wanted op.tag (trim (' ' :: s)) (renderNodes inside) scope).map
        Rendering.counted := by
    cases op <;> rfl
  rw [← shown_renderIf htrim, nodeAround, renderNodes, hrender, renderNodes]
  cases renderIf op.wanted op.tag (trim (' ' :: s)) (renderNodes inside) scope with
  | error e => rfl
  | ok r => exact congrArg (Except.ok ·.shown) (Rendering.append_empty r.counted)

/-! ## Blocks one inside the other -/

theorem holds_joined_nil (op : Combinator) (scope : Scope) :
    (Condition.joined op []).holds scope = .ok op.wanted := by
  cases op <;> rfl

/-- The first term decides whether the others are asked. -/
theorem holds_joined_cons (op : Combinator) (t : Term) (ts : List Term) (scope : Scope) :
    (Condition.joined op (t :: ts)).holds scope = do
      if (← t.holds scope) == op.wanted then (Condition.joined op ts).holds scope
      else return !op.wanted := by
  cases op with
  | all =>
    rw [Condition.holds, allHold]
    cases t.holds scope with
    | error e => rfl
    | ok answer => cases answer <;> rfl
  | any =>
    rw [Condition.holds, anyHolds]
    cases t.holds scope with
    | error e => rfl
    | ok answer => cases answer <;> rfl

theorem shownIf_joined_cons (op : Combinator) (t : Term) (ts : List Term) (scope : Scope)
    (inside : Except ConversionError (Text × List Warning)) :
    shownIf op.wanted ((Condition.joined op (t :: ts)).holds scope) inside =
      shownIf op.wanted (t.holds scope)
        (shownIf op.wanted ((Condition.joined op ts).holds scope) inside) := by
  rw [holds_joined_cons]
  cases t.holds scope with
  | error e => rfl
  | ok answer =>
    by_cases h : answer = op.wanted
    · subst h
      simp only [shownIf_wanted, bind, Except.bind, beq_self_eq_true, if_true]
    · obtain rfl := Bool.eq_not_of_ne h
      rw [shownIf_unwanted]
      cases op <;> rfl

theorem holds_joined_of_unwanted {op : Combinator} {front back : List Term} {t : Term}
    {scope : Scope} (hfront : ∀ u ∈ front, u.holds scope = .ok op.wanted)
    (ht : t.holds scope = .ok !op.wanted) :
    (Condition.joined op (front ++ t :: back)).holds scope = .ok !op.wanted := by
  induction front with
  | nil =>
    rw [List.nil_append, holds_joined_cons, ht]
    cases op <;> rfl
  | cons u front ih =>
    obtain ⟨hu, hfront⟩ := List.forall_mem_cons.1 hfront
    rw [List.cons_append, holds_joined_cons, hu, ← ih hfront]
    cases op <;> rfl

theorem shown_nested {op : Combinator} {ss : List Text} {ts : List Term}
    (h : List.Forall₂ (fun s t => Condition.read s = .ok (.single t)) ss ts) (inside : List Node)
    (scope : Scope) :
    (renderNodes (ss.foldr (nodeAround op.tag) inside) scope).map Rendering.shown =
      shownIf op.wanted ((Condition.joined op ts).holds scope)
        ((renderNodes inside scope).map Rendering.shown) := by
  induction h with
  | nil => rw [holds_joined_nil, shownIf_wanted, List.foldr_nil]
  | cons hread _ ih =>
    -- The outermost block asks the first term, and what is inside it asks the others.
    rw [List.foldr_cons, shown_nodeAround hread, ih, shownIf_joined_cons]
    rfl

theorem parse_nested {tag : Tag} {ss : List Text} {body : Text} {inside : List Node}
    (hss : ∀ s ∈ ss, Braceless s) (hb : Node.parse body = .ok inside) :
    Node.parse (ss.foldr (blockAround tag) body) = .ok (ss.foldr (nodeAround tag) inside) := by
  induction ss with
  | nil => exact hb
  | cons s ss ih =>
    obtain ⟨hs, hss⟩ := List.forall_mem_cons.1 hss
    exact parse_blockAround hs (ih hss)

/-! ## Whole templates -/

def Rendered.shown (r : Rendered) : Text × List Warning × List TemplateError :=
  (r.content, r.warnings, r.errors)

/-- The outcome for a template that is one block depends on what its nodes show alone. -/
theorem render_shown {template : Text} {tag : Tag} {argument : Text} {inside : List Node}
    (h : Node.parse template = .ok (nodeAround tag argument inside)) (context : Fields) :
    (render template context).map Rendered.shown =
      ((renderNodes (nodeAround tag argument inside) (.base context)).map Rendering.shown).map
        fun shown => (squeezeBlankLines shown.1, shown.2.eraseDups, []) := by
  cases hr : renderNodes (nodeAround tag argument inside) (.base context) with
  | error e =>
    simp only [render, h, hr]
    rfl
  | ok r =>
    have hpos : 0 < r.directives := directives_renderNodes List.mem_cons_self rfl hr
    rw [render_of_parse h hr, Rendered.ofRendering_of_ne (Nat.ne_of_gt hpos)]
    rfl

/-- A block with joined terms and the blocks with a term each, one inside the other, show the same
text and warnings in every scope, those of the body or none, or stop at the same error. The pieces
are read alone as the terms, with any blanks around them. Behind the first term that does not come
out as it has to, nothing is asked in either. -/
theorem render_nested {op : Combinator} {e b : Text} {ss : List Text} {ts : List Term}
    {bs : List Node} (he : Braceless e) (hread : Condition.read e = .ok (.joined op ts))
    (hss : ss.map trim = (Condition.pieces e).map trim) (hb : Node.parse b = .ok bs) :
    List.Forall₂ (fun s t => Condition.read s = .ok (.single t)) ss ts ∧
      ∃ ns ms, Node.parse (blockAround op.tag e b) = .ok ns ∧
        Node.parse (ss.foldr (blockAround op.tag) b) = .ok ms ∧
        (∀ scope, (renderNodes ns scope).map Rendering.shown =
            (renderNodes ms scope).map Rendering.shown ∧
          (renderNodes ms scope).map Rendering.shown =
            shownIf op.wanted ((Condition.joined op ts).holds scope)
              ((renderNodes bs scope).map Rendering.shown)) ∧
        (∀ scope front t back, ts = front ++ t :: back →
          (∀ u ∈ front, u.holds scope = .ok op.wanted) → t.holds scope = .ok !op.wanted →
          (renderNodes ns scope).map Rendering.shown = .ok ([], []) ∧
            (renderNodes ms scope).map Rendering.shown = .ok ([], [])) ∧
        ∀ context, (render (blockAround op.tag e b) context).map Rendered.shown =
          (render (ss.foldr (blockAround op.tag) b) context).map Rendered.shown := by
  have hterms := Condition.read_of_trim_eq hss hread
  have hbraceless := Condition.braceless_of_trim_eq hss he
  -- There is an outermost block, so both templates are one block.
  obtain ⟨s, ss, rfl⟩ : ∃ s ss', ss = s :: ss' := by
    apply List.exists_cons_of_ne_nil
    rintro rfl
    cases hss
  have hjoined := @parse_blockAround op.tag _ _ _ he hb
  have hnested := @parse_nested op.tag _ _ _ hbraceless hb
  have hsame : ∀ scope, (renderNodes (nodeAround op.tag e bs) scope).map Rendering.shown =
      (renderNodes ((s :: ss).foldr (nodeAround op.tag) bs) scope).map Rendering.shown := by
    intro scope
    rw [shown_nodeAround hread, shown_nested hterms]
  refine ⟨hterms, _, _, hjoined, hnested,
    fun scope => ⟨hsame scope, shown_nested hterms bs scope⟩, ?_, ?_⟩
  · rintro scope front t back rfl hfront ht
    rw [← hsame, and_self, shown_nodeAround hread, holds_joined_of_unwanted hfront ht]
    exact shownIf_unwanted
  · intro context
    rw [render_shown hjoined, render_shown hnested, hsame]
    rfl

theorem render_nested_quoted :
    let e := text "a == \"x && y\" && !b"
    let ss := [text "a == \"x && y\"", text "!b"]
    let ts := [.compare (text "a") .equal ⟨text "x && y", true⟩, .truth (text "b") true]
    let context := [(text "a", .str (text "x && y"))]
    let nested := text "\x7b\x7b#if a == \"x && y\"\x7d\x7d\x7b\x7b#if !b\x7d\x7dYes" ++
      text "\x7b\x7b/if\x7d\x7d\x7b\x7b/if\x7d\x7d"
    Braceless e ∧ Condition.read e = .ok (.joined .all ts) ∧
      ss.map trim = (Condition.pieces e).map trim ∧
      Node.parse (text "Yes") = .ok [.plain (text "Yes")] ∧
      (render nested context).map Rendered.shown =
        .ok (text "Yes", [], []) := by
  intro e ss ts context nested
  have he : Braceless e := by decide +kernel
  have hread : Condition.read e = .ok (.joined .all ts) := by decide +kernel
  have hss : ss.map trim = (Condition.pieces e).map trim := by decide +kernel
  have hb : Node.parse (text "Yes") = .ok [.plain (text "Yes")] := by cbv
  have hholds : (Condition.joined .all ts).holds (.base context) = .ok true := by decide +kernel
  have hbody : renderNodes [.plain (text "Yes")] (.base context) = .ok ⟨text "Yes", 0, []⟩ := by
    cbv
  obtain ⟨-, ns, ms, -, -, -, -, hrender⟩ := render_nested he hread hss hb
  refine ⟨he, hread, hss, hb, (hrender context).symm.trans ?_⟩
  rw [render_shown (parse_blockAround he hb), shown_nodeAround hread, hholds, hbody]
  rfl

end Stencil
