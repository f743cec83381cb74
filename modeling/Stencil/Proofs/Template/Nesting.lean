import Mathlib.Data.List.Induction
import Stencil.Proofs.Template.Marker

/-!
# Well-nested markers

Which sequences of markers are well nested, and which can still become so, is said without a stack.
A stack of tags decides both, and the markers behind its tags are the open blocks.
-/

namespace Stencil

/-- Every opening marker is closed by one of its tag, behind what is well nested in itself. -/
inductive WellNested : List Token → Prop
  | nil : WellNested []
  | block {tag inner closing inside rest} : WellNested inside → WellNested rest →
      WellNested (.opening tag inner :: (inside ++ .closing tag closing :: rest))

/-- Whether more markers can make the sequence well nested. -/
def Viable (ts : List Token) : Prop := ∃ more, WellNested (ts ++ more)

theorem WellNested.append {ts us : List Token} (ht : WellNested ts) (hu : WellNested us) :
    WellNested (ts ++ us) := by
  induction ht with
  | nil => exact hu
  | block hinside _ _ ih =>
    rw [List.cons_append, List.append_assoc, List.cons_append]
    exact .block hinside ih

theorem Viable.of_append {ts us : List Token} (h : Viable (ts ++ us)) : Viable ts := by
  obtain ⟨more, h⟩ := h
  exact ⟨us ++ more, by rwa [← List.append_assoc]⟩

/-! ## A stack of tags -/

/-- The tags that markers leave open behind others, the innermost first, unless a closing marker
does not fit. -/
def openTags : List Tag → List Token → Option (List Tag)
  | tags, [] => some tags
  | tags, .opening tag _ :: ts => openTags (tag :: tags) ts
  | [], .closing .. :: _ => none
  | tag' :: tags, .closing tag _ :: ts => if tag' = tag then openTags tags ts else none

theorem openTags_append (tags : List Tag) (ts us : List Token) :
    openTags tags (ts ++ us) = (openTags tags ts).bind (openTags · us) := by
  fun_induction openTags tags ts with
  | case1 => rfl
  | case2 tags tag _ ts ih => simpa [openTags] using ih
  | case3 => rfl
  | case4 tag tags _ ts ih => simpa [openTags] using ih
  | case5 tag' tags tag _ ts h => simp [openTags, h]

theorem WellNested.openTags_eq {ts : List Token} (h : WellNested ts) (tags : List Tag) :
    openTags tags ts = some tags := by
  induction h generalizing tags with
  | nil => rfl
  | block _ _ ihinside ihrest =>
    rw [openTags, openTags_append, ihinside]
    simpa [openTags] using ihrest tags

/-! ## Markers at their places -/

structure Marker where
  offset : Nat
  token : Token

def tokens (ms : List Marker) : List Token := ms.map Marker.token

theorem tokens_append (ms ns : List Marker) : tokens (ms ++ ns) = tokens ms ++ tokens ns :=
  List.map_append

theorem openTags_opened {m : Marker} {inside : List Marker} {tag : Tag} {inner : Text}
    (hm : m.token = .opening tag inner) (hinside : WellNested (tokens inside)) (tags : List Tag) :
    openTags tags (tokens (m :: inside)) = some (tag :: tags) := by
  have hrest := hinside.openTags_eq (tag :: tags)
  rw [tokens, List.map_cons, hm, openTags]
  exact hrest

/-- Whether markers leave others open, the innermost first: between two of them, and behind the
last one, all is well nested. -/
inductive Leaves : List Marker → List Marker → Prop
  | nil {ms} : WellNested (tokens ms) → Leaves ms []
  | cons {outer m inside opened tag inner} : Leaves outer opened →
      m.token = .opening tag inner → WellNested (tokens inside) →
      Leaves (outer ++ m :: inside) (m :: opened)

namespace Leaves

variable {ms opened : List Marker} {m c : Marker} {tag : Tag} {inner : Text}

theorem append {ns : List Marker} (h : Leaves ms opened) (hn : WellNested (tokens ns)) :
    Leaves (ms ++ ns) opened := by
  cases h with
  | nil hms => exact .nil (by rw [tokens_append]; exact hms.append hn)
  | cons houter hm hinside =>
    rw [List.append_assoc, List.cons_append]
    exact .cons houter hm (by rw [tokens_append]; exact hinside.append hn)

theorem opening (h : Leaves ms opened) (hm : m.token = .opening tag inner) :
    Leaves (ms ++ [m]) (m :: opened) :=
  .cons h hm .nil

theorem innermost (h : Leaves ms (m :: opened)) :
    ∃ outer inside tag inner, ms = outer ++ m :: inside ∧ Leaves outer opened ∧
      m.token = .opening tag inner ∧ WellNested (tokens inside) := by
  cases h with
  | cons houter hm hinside => exact ⟨_, _, _, _, rfl, houter, hm, hinside⟩

theorem closing (h : Leaves ms (m :: opened)) (hc : c.token = .closing m.token.tag inner) :
    Leaves (ms ++ [c]) opened := by
  obtain ⟨outer, inside, tag, inner', rfl, houter, hm, hinside⟩ := h.innermost
  have hblock : WellNested (tokens (m :: (inside ++ [c]))) := by
    rw [hm, Token.tag] at hc
    have hclosed : WellNested (.opening tag inner' :: (tokens inside ++ [.closing tag inner])) :=
      .block hinside .nil
    simpa [tokens, hm, hc] using hclosed
  simpa using houter.append hblock

theorem wellNested (h : Leaves ms []) : WellNested (tokens ms) := by
  cases h with
  | nil hms => exact hms

theorem openTags_eq (h : Leaves ms opened) :
    openTags [] (tokens ms) = some (opened.map (·.token.tag)) := by
  induction h with
  | nil hms => exact hms.openTags_eq []
  | @cons outer m inside opened tag inner _ hm hinside ih =>
    rw [tokens_append, openTags_append, ih, Option.bind_some, openTags_opened hm hinside]
    simp [hm, Token.tag]

end Leaves

theorem exists_leaves {ms : List Marker} (h : (openTags [] (tokens ms)).isSome) :
    ∃ opened, Leaves ms opened := by
  induction ms using List.reverseRecOn with
  | nil => exact ⟨[], .nil .nil⟩
  | append_singleton ms m ih =>
    rw [tokens_append, openTags_append, Option.isSome_bind] at h
    cases hms : openTags [] (tokens ms) with
    | none => simp [hms] at h
    | some tags =>
      obtain ⟨opened, hleaves⟩ := ih (by simp [hms])
      rw [hleaves.openTags_eq] at h
      cases htoken : m.token with
      | opening tag inner => exact ⟨m :: opened, hleaves.opening htoken⟩
      | closing tag inner =>
        cases opened with
        | nil => simp [tokens, htoken, openTags] at h
        | cons o opened =>
          have htag : o.token.tag = tag := by
            simpa [tokens, htoken, openTags] using h
          subst htag
          exact ⟨opened, hleaves.closing htoken⟩

/-! ## What the stack decides -/

theorem tokens_mk (ts : List Token) : tokens (ts.map (Marker.mk 0)) = ts := by
  simp [tokens, Function.comp_def]

theorem wellNested_iff {ts : List Token} : WellNested ts ↔ openTags [] ts = some [] := by
  constructor
  · intro h
    exact h.openTags_eq []
  · intro h
    rw [← tokens_mk ts] at h ⊢
    obtain ⟨opened, hleaves⟩ := exists_leaves (by rw [h]; rfl)
    rw [hleaves.openTags_eq, Option.some.injEq, List.map_eq_nil_iff] at h
    subst h
    exact hleaves.wellNested

theorem openTags_closings (tags : List Tag) :
    openTags tags (tags.map (Token.closing · [])) = some [] := by
  induction tags with
  | nil => rfl
  | cons tag tags ih => simpa [openTags] using ih

theorem viable_iff {ts : List Token} : Viable ts ↔ (openTags [] ts).isSome := by
  constructor
  · rintro ⟨more, h⟩
    rw [wellNested_iff, openTags_append] at h
    obtain ⟨tags, hts, -⟩ := Option.bind_eq_some_iff.1 h
    rw [hts]
    rfl
  · intro h
    obtain ⟨tags, hts⟩ := Option.isSome_iff_exists.1 h
    refine ⟨tags.map (Token.closing · []), wellNested_iff.2 ?_⟩
    rw [openTags_append, hts]
    exact openTags_closings tags

/-- Whether no closing marker fits an opening one in front of the sequence. -/
def NeverClosed (ts : List Token) : Prop :=
  ∀ inside tag inner rest, ts = inside ++ .closing tag inner :: rest → ¬WellNested inside

theorem Viable.neverClosed {ts : List Token} (h : Viable ts) : NeverClosed ts := by
  rintro inside tag inner rest rfl hinside
  rw [viable_iff, openTags_append, hinside.openTags_eq] at h
  cases h

namespace Leaves

variable {ms opened : List Marker} {m : Marker}

theorem not_wellNested (h : Leaves ms (m :: opened)) : ¬WellNested (tokens ms) := by
  rw [wellNested_iff, h.openTags_eq]
  simp

/-- The outermost of the markers that are left open has only closed ones in front of it. -/
theorem outermost (h : Leaves ms opened) (hm : opened.getLast? = some m) :
    ∃ outer inside tag inner, ms = outer ++ m :: inside ∧ m.token = .opening tag inner ∧
      WellNested (tokens outer) ∧ Viable (tokens inside) := by
  induction h with
  | nil _ => cases hm
  | @cons outer o inside opened tag inner houter ho hinside ih =>
    cases opened with
    | nil =>
      cases hm
      exact ⟨outer, inside, tag, inner, rfl, ho, houter.wellNested, ⟨[], by simpa using hinside⟩⟩
    | cons o' opened =>
      obtain ⟨front, behind, tag', inner', rfl, hmtoken, hfront, hbehind⟩ := ih hm
      refine ⟨front, behind ++ o :: inside, tag', inner', by simp, hmtoken, hfront, ?_⟩
      rw [viable_iff] at hbehind ⊢
      obtain ⟨tags, htags⟩ := Option.isSome_iff_exists.1 hbehind
      rw [tokens_append, openTags_append, htags, Option.bind_some, openTags_opened ho hinside]
      rfl

end Leaves

end Stencil
