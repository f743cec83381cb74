import Stencil.Proofs.Rendering.Counting
import Stencil.Proofs.Text.Parts

/-!
# Warnings and their messages

No two warnings about a text have the same message, so it makes no difference whether warnings or
messages are kept once.
-/

namespace Stencil

open Outcome

theorem map_eraseDups {α β : Type} [BEq α] [LawfulBEq α] [BEq β] [LawfulBEq β] {f : α → β}
    {l : List α} (h : ∀ a ∈ l, ∀ b ∈ l, f a = f b → a = b) :
    l.eraseDups.map f = (l.map f).eraseDups := by
  match l with
  | [] => rfl
  | a :: l =>
    have hkept : (l.filter fun b => !b == a).map f = (l.map f).filter fun y => !y == f a := by
      rw [List.filter_map]
      refine congrArg (List.map f) (List.filter_congr fun b hb => ?_)
      have hiff : b = a ↔ f b = f a :=
        ⟨congrArg f, h b (List.mem_cons_of_mem a hb) a List.mem_cons_self⟩
      rw [Function.comp_apply, Bool.eq_iff_iff, Bool.not_eq_true', Bool.not_eq_true',
        beq_eq_false_iff_ne, beq_eq_false_iff_ne, Ne, Ne, hiff]
    have hrest : ∀ b ∈ l.filter (fun b => !b == a), ∀ c ∈ l.filter (fun b => !b == a),
        f b = f c → b = c := fun b hb c hc =>
      h b (List.mem_cons_of_mem a (List.filter_subset_self _ hb)) c
        (List.mem_cons_of_mem a (List.filter_subset_self _ hc))
    rw [List.map_cons, List.eraseDups_cons, List.eraseDups_cons, List.map_cons,
      map_eraseDups hrest, hkept]
termination_by l.length
decreasing_by exact Nat.lt_succ_of_le (List.length_filter_le _ _)

/-! ## Messages -/

theorem append_bar_inj {a b c d : Text} (ha : chr '|' ∉ a) (hb : chr '|' ∉ b)
    (h : a ++ chr '|' :: c = b ++ chr '|' :: d) : a = b ∧ c = d := by
  have hpieces := congrArg (Text.splitOn '|') h
  rw [Text.splitOn_append ha, Text.splitOn_append hb] at hpieces
  obtain ⟨rfl, -⟩ := List.cons.inj hpieces
  exact ⟨rfl, (List.cons.inj (List.append_cancel_left h)).2⟩

namespace Warning

variable {v w : Warning}

/-- A warning that a text can bring about. A path in front of a bar has no bar. -/
def IsAboutText : Warning → Prop
  | includeUnsupported _ | pathNotFound _ | unknownTransform _ => True
  | severalTransforms path _ => chr '|' ∉ path
  | notIterable _ | invalidCondition .. => False

/-- The character that a message starts with. It tells the warnings about a text apart by kind. -/
def initial : Warning → CodePoint
  | includeUnsupported _ | invalidCondition .. => 'I'
  | pathNotFound _ => 'V'
  | severalTransforms .. => 'O'
  | unknownTransform _ => 'U'
  | notIterable _ => 'C'

theorem head?_message (h : w.IsAboutText) : w.message.head? = some w.initial := by
  cases w with
  | includeUnsupported name => rfl
  | pathNotFound path => rfl
  | severalTransforms path transform => rfl
  | unknownTransform name => rfl
  | notIterable path => cases h
  | invalidCondition tag argument fault => cases h

theorem message_severalTransforms (path transform : Text) :
    (severalTransforms path transform).message =
      text "Only one transform is allowed: " ++ openBraces ++
        ((path ++ [chr ' ']) ++ chr '|' :: (chr ' ' :: transform ++ closeBraces)) := by
  have hbar : text " | " = [chr ' ', chr '|', chr ' '] := rfl
  unfold message
  simp only [hbar, List.append_assoc, List.cons_append, List.nil_append]

theorem message_inj (hv : v.IsAboutText) (hw : w.IsAboutText) (h : v.message = w.message) :
    v = w := by
  have hinitial : v.initial = w.initial := by
    have hhead := head?_message hv
    rw [h, head?_message hw] at hhead
    exact (Option.some.inj hhead).symm
  cases v with
  | includeUnsupported name =>
    cases w with
    | includeUnsupported name' => rw [List.append_cancel_left h]
    | invalidCondition tag argument fault => cases hw
    | _ => cases hinitial
  | pathNotFound path =>
    cases w with
    | pathNotFound path' => rw [List.append_cancel_left h]
    | _ => cases hinitial
  | severalTransforms path transform =>
    cases w with
    | severalTransforms path' transform' =>
      rw [message_severalTransforms, message_severalTransforms] at h
      have hmarker := List.append_cancel_left h
      have hfront : ∀ {s : Text}, chr '|' ∉ s → chr '|' ∉ s ++ [chr ' '] := by simp
      obtain ⟨hpath, htransform⟩ := append_bar_inj (hfront hv) (hfront hw) hmarker
      rw [List.append_cancel_right hpath,
        (List.cons.inj (List.append_cancel_right htransform)).2]
    | _ => cases hinitial
  | unknownTransform name =>
    cases w with
    | unknownTransform name' => rw [List.append_cancel_left h]
    | _ => cases hinitial
  | notIterable path => cases hv
  | invalidCondition tag argument fault => cases hv

end Warning

/-! ## Warnings about a text -/

variable {inner : Text}

theorem Reference.not_mem_path {name : Text} (h : (ofInner inner).transform? = some name) :
    chr '|' ∉ (ofInner inner).path := by
  unfold ofInner at h ⊢
  split
  · next hcut =>
    rw [hcut] at h
    cases h
  · next path transform hcut =>
    have hpath : chr '|' ∉ path := Text.not_mem_of_cut? hcut
    exact fun hmem => hpath ((Text.isInfix_trim path).subset hmem)

theorem isAboutText_of_render {scope : Scope} {part : Rendering} {w : Warning}
    (h : (Reference.ofInner inner).render scope = .ok part) (hw : w ∈ part.warnings) :
    w.IsAboutText := by
  obtain ⟨-, hnone | hpath | ⟨name, hname, hseveral | hunknown⟩⟩ := Reference.render_cases h
  · rw [hnone] at hw
    cases hw
  · rw [hpath, List.mem_singleton] at hw
    subst hw
    trivial
  · rw [hseveral, List.mem_singleton] at hw
    subst hw
    exact Reference.not_mem_path hname
  · rw [hunknown, List.mem_singleton] at hw
    subst hw
    trivial

end Stencil
