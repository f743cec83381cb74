import Stencil.Proofs.Condition.RoundTrip
import Stencil.Proofs.Rendering.Composition
import Stencil.Proofs.Template.Forest

/-!
# Paths in templates

A path between braces is one reference, and one that stands alone in a condition asks whether its
value is true.
-/

namespace Stencil

open Outcome Text

variable {p s body : Text} {context : Fields} {v : Value}

/-! ## Text without an opening brace -/

theorem not_holdsToken_of_not_mem (h : chr '{' ∉ s) : ¬HoldsToken s := by
  rintro ⟨lead, t, rest, -, rfl⟩
  rw [t.source_eq] at h
  simp at h

theorem includes_of_not_mem (h : chr '{' ∉ s) : includes s = [] := by
  induction s with
  | nil => rfl
  | cons c s ih =>
    obtain ⟨hc, hs⟩ := not_or.1 (List.mem_cons.not.1 h)
    have hnone : takeInclude? (c :: s) = none := by
      unfold takeInclude?
      split
      · next heq => exact absurd (List.cons.inj heq).1.symm hc
      · rfl
    rw [includes, hnone, ih hs]
    rfl

/-! ## References -/

namespace IsPath

theorem not_mem_of_not_name (h : isPath p) {d : CodePoint} (hd : Stencil.isNameChar d = false) :
    d ∉ p := by
  intro hmem
  rw [IsPath.isNameChar h d hmem] at hd
  cases hd

theorem braceless (h : isPath p) : Braceless p := by
  have hopen : Stencil.isNameChar '{' = false := by decide +kernel
  have hclose : Stencil.isNameChar '}' = false := by decide +kernel
  intro c hc
  have hneOpen : c ≠ '{' := fun he => not_mem_of_not_name h hopen (he ▸ hc)
  have hneClose : c ≠ '}' := fun he => not_mem_of_not_name h hclose (he ▸ hc)
  simp [isBrace, hneOpen, hneClose]

theorem head_ne (h : isPath p) : ∃ c q, p = c :: q ∧ c ≠ '{' ∧ c ≠ '#' ∧ c ≠ '/' ∧ c ≠ '>' := by
  obtain ⟨c, q, rfl, hc⟩ := exists_cons h
  refine ⟨c, q, rfl, ?_, ?_, ?_, ?_⟩ <;>
  · rintro rfl
    cases hc

end IsPath

theorem IsPath.not_mem_closed (h : isPath p) : chr '{' ∉ p ++ closeBraces := by
  have hpath : chr '{' ∉ p := not_mem_of_not_name h (by decide +kernel)
  have hclose : chr '{' ∉ closeBraces := by decide
  exact fun hmem => (List.mem_append.1 hmem).elim hpath hclose

theorem not_holdsToken_path (h : isPath p) : ¬HoldsToken (openBraces ++ p ++ closeBraces) := by
  -- Only the two braces at the front could begin a marker.
  have hrest := not_holdsToken_of_not_mem (IsPath.not_mem_closed h)
  obtain ⟨c, q, rfl, hopen, hif, hend, -⟩ := IsPath.head_ne h
  have hfirst : Token.take? ('{' :: '{' :: (c :: q ++ closeBraces)) = none := by
    simp [Token.take?, hif, hend]
  have hsecond : Token.take? ('{' :: (c :: q ++ closeBraces)) = none := by
    simp [Token.take?, hopen]
  have hcut : openBraces ++ (c :: q) ++ closeBraces =
      chr '{' :: '{' :: (c :: q ++ closeBraces) := rfl
  rw [hcut, holdsToken_cons, holdsToken_cons, hfirst, hsecond]
  simpa using hrest

theorem includes_path (h : isPath p) : includes (openBraces ++ p ++ closeBraces) = [] := by
  have hrest := includes_of_not_mem (IsPath.not_mem_closed h)
  obtain ⟨c, q, rfl, hopen, -, -, hinclude⟩ := IsPath.head_ne h
  have hfirst : takeInclude? ('{' :: '{' :: (c :: q ++ closeBraces)) = none := by
    simp [takeInclude?, hinclude]
  have hsecond : takeInclude? ('{' :: (c :: q ++ closeBraces)) = none := by
    simp [takeInclude?, hopen]
  have hcut : openBraces ++ (c :: q) ++ closeBraces =
      chr '{' :: '{' :: (c :: q ++ closeBraces) := rfl
  rw [hcut, includes, includes, hfirst, hsecond, hrest]
  rfl

theorem ofText_path (h : isPath p) :
    Segment.ofText false (openBraces ++ p ++ closeBraces) = [.reference p] := by
  have hclosed := takeClosed?_append (IsPath.braceless h) []
  rw [List.append_nil] at hclosed
  have hstart : (trimStart p).head?.any (!Reference.isSigil ·) = true := by
    have htrim := (IsPath.tight h).trimStart_append (fun _ hc => absurd hc List.not_mem_nil) []
    rw [List.append_nil, List.nil_append] at htrim
    obtain ⟨c, q, rfl, -, hif, hend, hinclude⟩ := IsPath.head_ne h
    simp [htrim, Reference.isSigil, hif, hend, hinclude]
  have htake : Reference.take? ('{' :: '{' :: (p ++ closeBraces)) = some (p, []) := by
    simp [Reference.take?, hclosed, hstart]
  have hcut : openBraces ++ p ++ closeBraces = chr '{' :: '{' :: (p ++ closeBraces) := rfl
  rw [hcut, Segment.ofText]
  split
  · next inner rest heq =>
    rw [if_neg Bool.false_ne_true, htake] at heq
    obtain ⟨rfl, rfl⟩ := Prod.mk.inj (Option.some.inj heq)
    rw [Segment.ofText]
  · next heq =>
    rw [if_neg Bool.false_ne_true, htake] at heq
    cases heq

theorem ofInner_path (h : isPath p) : Reference.ofInner p = ⟨p, none⟩ := by
  have hbar : ∀ c ∈ p, (c != '|') = true := by
    intro c hc
    rw [bne, IsPath.beq_mark h hc (by decide)]
    rfl
  have hcut : cut? '|' p = none := by
    rw [cut?, List.dropWhile_eq_nil_iff.2 hbar]
  rw [Reference.ofInner, hcut, (IsPath.tight h).trim_eq]

theorem render_path (h : isPath p) (hlookup : (Scope.base context).lookup p = .ok (some v))
    (hv : v.textFault? = none) :
    render (openBraces ++ p ++ closeBraces) context =
      .ok ⟨squeezeBlankLines v.toText, true, 1, [], []⟩ := by
  have hne : openBraces ++ p ++ closeBraces ≠ [] := List.cons_ne_nil _ _
  have hparse := parse_of_not_holdsToken hne (not_holdsToken_path h)
  have hwritten : Value.written (some v) = .ok v.toText := by
    rw [Value.written, Option.bind_some, hv]
    rfl
  have hreference : (Segment.reference p).render (.base context) = .ok ⟨v.toText, 1, []⟩ := by
    rw [Segment.render, ofInner_path h, Reference.render]
    simp only [hlookup, hwritten, bind, Except.bind]
    rfl
  have hrun : renderNodes [.plain (openBraces ++ p ++ closeBraces)] (.base context) =
      .ok ⟨v.toText, 1, []⟩ := by
    simp only [renderNodes, Node.render, renderText, ofText_path h, includes_path h,
      List.mapM_cons, List.mapM_nil, hreference, bind, Except.bind, pure, Except.pure]
    simp [Rendering.ext_iff, Rendering.concat, Rendering.append, Rendering.empty]
  rw [render_of_parse hparse hrun, Rendered.ofRendering_of_ne Nat.one_ne_zero]
  rfl

/-! ## Conditions -/

theorem Condition.read_path (h : isPath p) : Condition.read p = .ok (.single (.truth p false)) := by
  have hspelled : Term.Spelled (.truth p false) p :=
    @Term.Spelled.truth p [] false h fun _ hc => absurd hc List.not_mem_nil
  rw [Condition.read, hspelled.tight.trim_eq, hspelled.split]
  simp only [ofPieces, hspelled.read]
  rfl

theorem Condition.holds_path (hlookup : (Scope.base context).lookup p = .ok (some v)) :
    Condition.holds (.base context) (.single (.truth p false)) = .ok v.truthy := by
  rw [Condition.holds, Term.holds, hlookup]
  simp [bind, Except.bind, pure, Except.pure]

theorem render_when_path {ns : List Node} {r : Rendering} (h : isPath p)
    (hlookup : (Scope.base context).lookup p = .ok (some v)) (hbody : Node.parse body = .ok ns)
    (hr : (if v.truthy then renderNodes ns (.base context) else .ok .empty) = .ok r) :
    render ((Token.opening .when (' ' :: p)).source ++ body ++ (Token.closing .when []).source)
        context =
      .ok ⟨squeezeBlankLines r.text, true, 1 + r.directives, r.warnings.eraseDups, []⟩ := by
  have hparse := @parse_block_between [] body [] [] ns [] .when (' ' :: p) [] parse_nil hbody
    parse_nil (isInner_space (IsPath.braceless h)) isInner_nil
  rw [List.nil_append, List.append_nil] at hparse
  have hread := Condition.read_path h
  have hholds := Condition.holds_path hlookup
  have hputs : BlockPuts (renderNodes ns) (.base context) (trim p) .when r := by
    rw [(IsPath.tight h).trim_eq]
    cases htruthy : v.truthy with
    | true =>
      rw [htruthy] at hr hholds
      exact .taken rfl hread hholds hr
    | false =>
      rw [htruthy] at hr hholds
      obtain rfl := Except.ok.inj hr
      exact .skipped rfl hread hholds
  have hrun : renderNodes ([] ++ .block .when (' ' :: p) ns [] :: []) (.base context) =
      .ok ⟨r.text, 1 + r.directives, r.warnings⟩ := by
    refine renderNodes_block_between_iff.2 ⟨.empty, r, .empty, rfl, hputs, rfl, ?_⟩
    simp [Rendering.empty]
  rw [render_of_parse hparse hrun, Rendered.ofRendering_of_ne (by simp)]

end Stencil
