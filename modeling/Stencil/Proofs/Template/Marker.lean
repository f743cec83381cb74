import Stencil.Template.Token

/-!
# Where block markers stand

A marker is found at the front of a text exactly if one is written there. Text in front of a
marker can neither swallow its opening braces nor borrow them to complete a marker of its own.
-/

namespace Stencil

/-! ## What a marker is made of -/

def Braceless (s : Text) : Prop := ∀ c ∈ s, isBrace c = false

instance (s : Text) : Decidable (Braceless s) := List.decidableBAll _ s

/-- What may stand behind the tag of a marker: no brace, and a blank first unless it is empty. -/
structure IsInner (inner : Text) : Prop where
  braceless : Braceless inner
  blank_first : inner.head?.all Text.isBlank

theorem isInner_nil : IsInner [] := ⟨by simp [Braceless], rfl⟩

theorem isInner_space {s : Text} (h : Braceless s) : IsInner (' ' :: s) where
  braceless := List.forall_mem_cons.2 ⟨by decide, h⟩
  blank_first := rfl

theorem Text.trim_space (s : Text) : trim (' ' :: s) = trim s := by
  simp [trim, trimStart, isBlank]

namespace Token

def tag : Token → Tag
  | opening tag _ | closing tag _ => tag

def inner : Token → Text
  | opening _ inner | closing _ inner => inner

/-- The character that tells opening and closing markers apart. -/
def sigil : Token → CodePoint
  | opening .. => '#'
  | closing .. => '/'

def WellFormed (t : Token) : Prop := IsInner t.inner

theorem source_eq (t : Token) :
    t.source = chr '{' :: '{' :: t.sigil :: (t.tag.name ++ t.inner ++ closeBraces) := by
  cases t <;> simp [source, openBraces, tag, inner, sigil]

theorem source_ne_nil (t : Token) : t.source ≠ [] := by
  rw [source_eq]
  exact List.cons_ne_nil _ _

end Token

/-! ## Taking what is there -/

theorem Tag.take?_append (tag : Tag) (rest : Text) :
    take? (tag.name ++ rest) = some (tag, rest) := by
  -- No name starts another, so at most one of the four can be taken.
  cases tag <;> rfl

theorem takeClosed?_append {inner : Text} (h : Braceless inner) (rest : Text) :
    takeClosed? (inner ++ closeBraces ++ rest) = some (inner, rest) := by
  have hp : ∀ c ∈ inner, (!isBrace c) = true := by
    intro c hc
    rw [h c hc]
    rfl
  have hstop : closeBraces ++ rest = chr '}' :: '}' :: rest := rfl
  unfold takeClosed?
  rw [List.append_assoc, List.dropWhile_append_of_pos hp, List.takeWhile_append_of_pos hp, hstop]
  simp [isBrace]

theorem braceless_of_takeClosed? {s inner rest : Text} (h : takeClosed? s = some (inner, rest)) :
    Braceless inner := by
  unfold takeClosed? at h
  split at h
  · cases h
    intro c hc
    simpa using List.all_eq_true.1 List.all_takeWhile c hc
  · cases h

namespace Token

theorem takeInner?_append {inner : Text} (tag : Tag) (h : IsInner inner) (rest : Text) :
    takeInner? (tag.name ++ inner ++ closeBraces ++ rest) = some (tag, inner, rest) := by
  have ht := Tag.take?_append tag (inner ++ closeBraces ++ rest)
  unfold takeInner?
  rw [List.append_assoc, List.append_assoc, ← List.append_assoc inner, ht]
  simp only [takeClosed?_append h.braceless, h.blank_first, if_true]

theorem isInner_of_takeInner? {s inner rest : Text} {tag : Tag}
    (h : takeInner? s = some (tag, inner, rest)) : IsInner inner := by
  unfold takeInner? at h
  split at h
  · cases h
  · split at h
    · cases h
    · rename_i hi
      split at h
      · rename_i hb
        cases h
        exact ⟨braceless_of_takeClosed? hi, hb⟩
      · cases h

theorem take?_source_append {t : Token} (h : t.WellFormed) (rest : Text) :
    take? (t.source ++ rest) = some (t, rest) := by
  have hi := takeInner?_append t.tag h rest
  rw [source_eq]
  cases t <;> simpa [take?, sigil, tag, inner] using hi

theorem wellFormed_of_take? {s rest : Text} {t : Token} (h : take? s = some (t, rest)) :
    t.WellFormed := by
  unfold take? at h
  split at h
  · obtain ⟨⟨tag, inner, r⟩, hr, he⟩ := Option.map_eq_some_iff.1 h
    cases he
    exact isInner_of_takeInner? hr
  · obtain ⟨⟨tag, inner, r⟩, hr, he⟩ := Option.map_eq_some_iff.1 h
    cases he
    exact isInner_of_takeInner? hr
  · cases h

theorem take?_eq_some_iff {s rest : Text} {t : Token} :
    take? s = some (t, rest) ↔ t.WellFormed ∧ s = t.source ++ rest := by
  constructor
  · intro h
    exact ⟨wellFormed_of_take? h, eq_append_of_take? h⟩
  · rintro ⟨h, rfl⟩
    exact take?_source_append h rest

end Token

/-! ## Borders -/

/-- The text ends here, or a block marker starts. -/
def AtBorder (s : Text) : Prop := s = [] ∨ ∃ t rest, s = Token.source t ++ rest

theorem atBorder_nil : AtBorder [] := .inl rfl

theorem atBorder_source (t : Token) (rest : Text) : AtBorder (t.source ++ rest) :=
  .inr ⟨t, rest, rfl⟩

namespace Token

theorem sigil_ne (t : Token) : t.sigil ≠ '{' := by
  cases t <;> simp [sigil]

theorem not_mem_tail {t : Token} (h : t.WellFormed) :
    chr '{' ∉ t.sigil :: (t.tag.name ++ t.inner ++ closeBraces) := by
  have hname : ∀ tag : Tag, chr '{' ∉ tag.name := by
    intro tag
    cases tag <;> decide
  have hinner : chr '{' ∉ t.inner := fun hm => by simpa [isBrace] using h.braceless _ hm
  simp [t.sigil_ne.symm, hname, hinner, closeBraces]

/-- Opening braces can be cut in two, but nothing else of a marker starts with one. -/
theorem eq_brace_of_source_eq {t : Token} (h : t.WellFormed) {s a : Text} (hs : s ≠ [])
    (he : t.source = s ++ chr '{' :: a) : s = [chr '{'] ∧ a.head? = some t.sigil := by
  rw [source_eq] at he
  match s, hs with
  | [c], _ =>
    simp only [List.cons_append, List.nil_append, List.cons.injEq, true_and] at he
    obtain ⟨rfl, rfl⟩ := he
    exact ⟨rfl, rfl⟩
  | _ :: _ :: s, _ =>
    simp only [List.cons_append, List.cons.injEq] at he
    have hout := not_mem_tail h
    rw [he.2.2] at hout
    simp at hout

/-- No marker reaches over a border: the braces of the next one would stand inside it. -/
theorem take?_append_eq_none {s rest : Text} (hs : s ≠ []) (hr : AtBorder rest)
    (h : take? s = none) : take? (s ++ rest) = none := by
  rcases hr with rfl | ⟨u, q, rfl⟩
  · rwa [List.append_nil]
  cases hd : take? (s ++ (u.source ++ q)) with
  | none => rfl
  | some found =>
    obtain ⟨t, r⟩ := found
    exfalso
    obtain ⟨ht, he⟩ := take?_eq_some_iff.1 hd
    have hwhole : ∀ a, s ≠ t.source ++ a := by
      rintro a rfl
      rw [take?_source_append ht] at h
      cases h
    rcases List.append_eq_append_iff.1 he with ⟨a, hsource, hrest⟩ | ⟨a, hsource, -⟩
    · cases a with
      | nil => exact hwhole [] (by rw [hsource, List.append_nil, List.append_nil])
      | cons c a =>
        rw [u.source_eq] at hrest
        simp only [List.cons_append, List.cons.injEq] at hrest
        obtain ⟨rfl, hrest⟩ := hrest
        obtain ⟨-, hhead⟩ := eq_brace_of_source_eq ht hs hsource
        cases a with
        | nil => cases hhead
        | cons d a =>
          -- The sigil of the one marker is the second brace of the other.
          simp only [List.cons_append, List.cons.injEq] at hrest
          exact t.sigil_ne (Option.some.inj hhead ▸ hrest.1.symm)
    · exact hwhole a hsource

end Token

end Stencil
