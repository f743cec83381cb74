import Stencil.Proofs.Text.Joining
import Stencil.Proofs.Text.Parts

/-!
# Words that are capitalised

Capitalised words that stand side by side are found again only where each capital makes a hump.
What is capitalised once more is changed exactly if some capital in it does not begin a word.
-/

namespace Stencil.Text

variable {opens : CodePoint → CodePoint → Text → Bool} {first : Text → Text} {c d : CodePoint}
  {s rest w : Text} {ws : List Text}

/-! ## Where capitals stand -/

/-- Each capital behind the first character begins a word, which `opens` tells by the character in
front and the text behind it. -/
def CapitalsOpen (opens : CodePoint → CodePoint → Text → Bool) (s : Text) : Prop :=
  ∀ c d back, c :: d :: back <:+ s → isCapital d = true → opens c d back = true

theorem capitalsOpen_nil : CapitalsOpen opens [] := by
  intro c d back hsuffix
  simp at hsuffix

theorem capitalsOpen_cons_iff :
    CapitalsOpen opens (c :: s) ↔
      (∀ d back, s = d :: back → isCapital d = true → opens c d back = true) ∧
        CapitalsOpen opens s := by
  constructor
  · intro h
    refine ⟨?_, ?_⟩
    · rintro d back rfl
      exact h c d back (List.suffix_refl _)
    · intro c' d back hsuffix
      exact h c' d back (hsuffix.trans (List.suffix_cons c s))
  · rintro ⟨hfirst, hrest⟩ c' d back hsuffix
    rcases List.suffix_cons_iff.1 hsuffix with heq | hsuffix
    · simp only [List.cons.injEq] at heq
      obtain ⟨rfl, rfl⟩ := heq
      exact hfirst d back rfl
    · exact hrest c' d back hsuffix

theorem CapitalsOpen.append (htail : ∀ d ∈ w.tail, isCapital d = false)
    (hends : ∀ c d back, w.getLast? = some c → rest = d :: back → isCapital d = true →
      opens c d back = true) (h : CapitalsOpen opens rest) : CapitalsOpen opens (w ++ rest) := by
  induction w with
  | nil => exact h
  | cons c w ih =>
    rw [List.cons_append, capitalsOpen_cons_iff]
    cases w with
    | nil => exact ⟨fun d back => hends c d back rfl, h⟩
    | cons e w =>
      simp only [List.tail_cons, List.forall_mem_cons] at htail
      refine ⟨?_, ih htail.2 ?_⟩
      · intro d back heq hd
        obtain ⟨rfl, -⟩ := List.cons.inj heq
        rw [htail.1] at hd
        cases hd
      · intro c' d back hlast
        exact hends c' d back (by rwa [List.getLast?_cons_cons])

theorem capitalsOpen_append_iff
    (huncut : ∀ c d back, c :: d :: back <:+ w → opens c d (back ++ rest) = false)
    (hends : ∀ c d back, w.getLast? = some c → rest = d :: back → isCapital d = true →
      opens c d back = true) :
    CapitalsOpen opens (w ++ rest) ↔
      (∀ d ∈ w.tail, isCapital d = false) ∧ CapitalsOpen opens rest := by
  constructor
  · intro h
    -- What can end the word does not matter here, and it would not pass to the tail.
    clear hends
    induction w with
    | nil => exact ⟨by simp, h⟩
    | cons c w ih =>
      rw [List.cons_append, capitalsOpen_cons_iff] at h
      obtain ⟨hfirst, h⟩ := h
      have hrest :=
        ih (fun c' d back hsuffix => huncut c' d back (hsuffix.trans (List.suffix_cons c w))) h
      refine ⟨?_, hrest.2⟩
      cases w with
      | nil => simp
      | cons e w =>
        rw [List.tail_cons, List.forall_mem_cons]
        refine ⟨?_, hrest.1⟩
        rw [Bool.eq_false_iff]
        intro hcapital
        have hopens := hfirst e (w ++ rest) rfl hcapital
        rw [huncut c e w (List.suffix_refl _)] at hopens
        cases hopens
  · rintro ⟨htail, h⟩
    exact h.append htail hends

/-- In a text without separators the capitals begin words exactly if no word has one behind its
first character. -/
theorem AreWords.capitalsOpen_iff (h : AreWords s ws) (hs : ∀ c ∈ s, isWordSeparator c = false) :
    CapitalsOpen isHump s ↔ ∀ w ∈ ws, ∀ d ∈ w.tail, isCapital d = false := by
  induction h with
  | nil => simp [capitalsOpen_nil]
  | @separator c s ws hc _ _ =>
    have := hs c List.mem_cons_self
    rw [hc] at this
    cases this
  | @word w rest s ws hword hsplit _ ih =>
    subst hsplit
    rw [List.forall_mem_append] at hs
    rw [List.forall_mem_cons, ← ih hs.2]
    apply capitalsOpen_append_iff hword.uncut
    intro c d back hlast hrest _
    rcases hword.ends c d back hlast hrest with hsep | hhump
    · rw [hs.2 d (by simp [hrest])] at hsep
      cases hsep
    · exact hhump

theorem capitalsOpen_join_iff (h : ∀ w ∈ ws, chr ' ' ∉ w) :
    CapitalsOpen (fun c _ _ => c == ' ') (join [' '] ws) ↔
      ∀ w ∈ ws, ∀ d ∈ w.tail, isCapital d = false := by
  induction ws with
  | nil => simp [join, capitalsOpen_nil]
  | cons w ws ih =>
    rw [List.forall_mem_cons] at h
    have huncut : ∀ c d back, c :: d :: back <:+ w → (c == ' ') = false := by
      intro c d back hsuffix
      rw [beq_eq_false_iff_ne]
      rintro rfl
      exact h.1 (hsuffix.subset List.mem_cons_self)
    rw [List.forall_mem_cons]
    by_cases hnil : ws = []
    · subst hnil
      have hword : CapitalsOpen (fun c _ _ => c == ' ') (w ++ []) ↔ _ :=
        capitalsOpen_append_iff huncut (by simp)
      simpa [join, capitalsOpen_nil] using hword
    · have hspace : isCapital ' ' = false := isCapital_eq_isUpper (by decide)
      rw [join_cons hnil, capitalsOpen_append_iff huncut, capitalsOpen_cons_iff, ih h.2]
      · simp
      · intro c d back _ heq hd
        obtain ⟨rfl, -⟩ := List.cons.inj heq
        rw [hspace] at hd
        cases hd

/-! ## Capitalised words -/

theorem head_capitalize (h : d ∈ (capitalize w).head?) : upperChar d = [d] := by
  cases w with
  | nil => cases h
  | cons c s =>
    rw [capitalize, List.head?_append_of_ne_nil _ (upperChar_ne_nil c)] at h
    exact upperChar_of_mem_upperChar (List.mem_of_mem_head? h)

theorem capitalize_eq_self_iff (h : upperChar d = [d]) :
    capitalize (d :: s) = d :: s ↔ ∀ c ∈ s, isCapital c = false := by
  rw [capitalize, h, List.singleton_append, List.cons.injEq, ← lower_eq_self_iff]
  simp

theorem length_le_capitalize (w : Text) : w.length ≤ (capitalize w).length := by
  cases w with
  | nil => simp
  | cons c s =>
    have hupper := List.length_pos_of_ne_nil (upperChar_ne_nil c)
    have hlower : s.length ≤ (lower s).length := length_le_lowerFrom [] s
    simp only [capitalize, List.length_append, List.length_cons]
    omega

theorem mem_capitalize (h : d ∈ capitalize w) : d ∈ w ∨ isWordSeparator d = false := by
  cases w with
  | nil => cases h
  | cons c s =>
    rw [capitalize, List.mem_append] at h
    rcases h with hd | hd
    · rcases eq_or_of_mem_upperChar hd with rfl | hsep
      · simp
      · exact .inr hsep
    · rcases (mem_lowerFrom hd).2 with hmem | hsep
      · simp [hmem]
      · exact .inr hsep

/-! ## Words side by side -/

/-- The first word by `first` and all others capitalised, with nothing between them. -/
def fuse (first : Text → Text) : List Text → Text
  | [] => []
  | w :: ws => first w ++ ws.flatMap capitalize

theorem pascal_eq (s : Text) : pascal s = fuse capitalize (splitWords s) := by
  unfold pascal
  cases splitWords s <;> rfl

theorem camel_eq (s : Text) : camel s = fuse lower (splitWords s) := by
  unfold camel
  cases splitWords s <;> rfl

/-- What lower case and capitalising have in common: where the first character comes from them,
they change a word exactly if it has a capital behind that character. -/
structure Leads (first : Text → Text) : Prop where
  length_le : ∀ w, w.length ≤ (first w).length
  mem : ∀ w d, d ∈ first w → d ∈ w ∨ isWordSeparator d = false
  eq_self_iff : ∀ w d s, d ∈ (first w).head? →
    (first (d :: s) = d :: s ↔ ∀ c ∈ s, isCapital c = false)

theorem leads_capitalize : Leads capitalize where
  length_le := length_le_capitalize
  mem _ _ := mem_capitalize
  eq_self_iff _ _ _ h := capitalize_eq_self_iff (head_capitalize h)

theorem leads_lower : Leads lower where
  length_le := length_le_lowerFrom []
  mem _ _ h := (mem_lowerFrom h).2
  eq_self_iff w d s h := by
    have hd := isCapital_of_mem_lower (List.mem_of_mem_head? h)
    rw [lower_eq_self_iff, List.forall_mem_cons]
    exact and_iff_right hd

theorem Leads.ne_nil (h : Leads first) (hw : w ≠ []) : first w ≠ [] := by
  have hlength := h.length_le w
  have hpos := List.length_pos_of_ne_nil hw
  exact List.ne_nil_of_length_pos (by omega)

theorem append_eq_append_iff_of_length_le {a b s t : Text} (hab : a.length ≤ b.length)
    (hst : s.length ≤ t.length) : b ++ t = a ++ s ↔ b = a ∧ t = s := by
  constructor
  · intro h
    have hlength := congrArg List.length h
    simp only [List.length_append] at hlength
    exact List.append_inj h (by omega)
  · rintro ⟨rfl, rfl⟩
    rfl

theorem length_flatten_le (ws : List Text) :
    ws.flatten.length ≤ (ws.flatMap capitalize).length := by
  induction ws with
  | nil => simp
  | cons w ws ih =>
    have := length_le_capitalize w
    simp only [List.flatten_cons, List.flatMap_cons, List.length_append]
    omega

theorem flatMap_capitalize_eq_iff :
    ws.flatMap capitalize = ws.flatten ↔ ∀ w ∈ ws, capitalize w = w := by
  induction ws with
  | nil => simp
  | cons w ws ih =>
    rw [List.flatMap_cons, List.flatten_cons, List.forall_mem_cons, ← ih]
    exact append_eq_append_iff_of_length_le (length_le_capitalize w) (length_flatten_le ws)

theorem AreWords.flatten_eq_self (h : AreWords s ws) (hs : ∀ c ∈ s, isWordSeparator c = false) :
    ws.flatten = s := by
  rw [h.flatten_eq, List.filter_eq_self]
  intro c hc
  rw [hs c hc, Bool.not_false]

theorem AreWords.head?_eq (h : AreWords s (w :: ws)) (hs : ∀ c ∈ s, isWordSeparator c = false) :
    w.head? = s.head? := by
  cases h with
  | separator hc _ =>
    rw [hs _ List.mem_cons_self] at hc
    cases hc
  | word hword hsplit _ => rw [← hsplit, List.head?_append_of_ne_nil _ hword.ne_nil]

theorem AreWords.isUpper_of_mem_tail (h : AreWords s ws)
    (hs : ∀ c ∈ s, isWordSeparator c = false) :
    ∀ w ∈ ws.tail, ∀ d ∈ w.head?, d.isUpper = true := by
  induction h with
  | nil => simp
  | separator hc _ _ =>
    rw [hs _ List.mem_cons_self] at hc
    cases hc
  | @word w rest s ws hword hsplit hrest ih =>
    subst hsplit
    rw [List.forall_mem_append] at hs
    cases ws with
    | nil => simp
    | cons v ws =>
      rw [List.tail_cons, List.forall_mem_cons]
      refine ⟨?_, ih hs.2⟩
      intro d hd
      rw [hrest.head?_eq hs.2, Option.mem_def, List.head?_eq_some_iff] at hd
      obtain ⟨back, hback⟩ := hd
      have hlast := List.getLast?_eq_some_getLast hword.ne_nil
      rcases hword.ends _ d back hlast hback with hsep | hhump
      · rw [hs.2 d (by simp [hback])] at hsep
        cases hsep
      · exact isUpper_of_isHump hhump

theorem isWordSeparator_of_mem_fuse (hfirst : Leads first)
    (hws : ∀ w ∈ ws, ∀ c ∈ w, isWordSeparator c = false) (h : d ∈ fuse first ws) :
    isWordSeparator d = false := by
  cases ws with
  | nil => cases h
  | cons w ws =>
    rw [List.forall_mem_cons] at hws
    rw [fuse, List.mem_append, List.mem_flatMap] at h
    rcases h with hd | ⟨v, hv, hd⟩
    · exact (hfirst.mem w d hd).elim (hws.1 d) id
    · exact (mem_capitalize hd).elim (hws.2 v hv d) id

theorem AreWords.fuse_eq_self_iff (h : AreWords s ws) (hfirst : Leads first)
    (hs : ∀ c ∈ s, isWordSeparator c = false)
    (hhead : ∀ d ∈ s.head?, ∃ w, d ∈ (first w).head?) :
    fuse first ws = s ↔ CapitalsOpen isHump s := by
  rw [h.capitalsOpen_iff hs]
  cases ws with
  | nil => simp [fuse, ← h.flatten_eq_self hs]
  | cons w ws =>
    have hflatten : w ++ ws.flatten = s := h.flatten_eq_self hs
    have hfuse : fuse first (w :: ws) = s ↔ first w = w ∧ ws.flatMap capitalize = ws.flatten := by
      rw [fuse, ← hflatten]
      exact append_eq_append_iff_of_length_le (hfirst.length_le w) (length_flatten_le ws)
    have hlead : first w = w ↔ ∀ c ∈ w.tail, isCapital c = false := by
      obtain ⟨rest, hword⟩ := h.exists_isWordBefore List.mem_cons_self
      obtain ⟨d, t, rfl⟩ := List.exists_cons_of_ne_nil hword.ne_nil
      obtain ⟨v, hv⟩ := hhead d (by simp [← hflatten])
      exact hfirst.eq_self_iff v d t hv
    -- The other words begin behind humps, so capitalising leaves their first characters alone.
    have hother : ∀ v ∈ ws, capitalize v = v ↔ ∀ c ∈ v.tail, isCapital c = false := by
      intro v hv
      cases v with
      | nil => simp [capitalize]
      | cons d t =>
        have hd : d.isUpper = true := h.isUpper_of_mem_tail hs _ hv d rfl
        exact capitalize_eq_self_iff (upperChar_of_isUpper hd)
    rw [hfuse, hlead, flatMap_capitalize_eq_iff, List.forall_mem_cons]
    exact and_congr_right fun _ => forall₂_congr hother

theorem fuse_eq_self_iff (hfirst : Leads first) (s : Text) :
    fuse first (splitWords (fuse first (splitWords s))) = fuse first (splitWords s) ↔
      CapitalsOpen isHump (fuse first (splitWords s)) := by
  have hwords : ∀ w ∈ splitWords s, w ≠ [] ∧ ∀ c ∈ w, isWordSeparator c = false := by
    intro w hw
    obtain ⟨rest, hword⟩ := exists_isWordBefore_of_mem_splitWords hw
    exact ⟨hword.ne_nil, hword.unseparated⟩
  obtain ⟨ws, hws⟩ := exists_areWords (fuse first (splitWords s))
  rw [hws.splitWords_eq]
  apply hws.fuse_eq_self_iff hfirst
  · intro c hc
    exact isWordSeparator_of_mem_fuse hfirst (fun w hw => (hwords w hw).2) hc
  · intro d hd
    cases hsplit : splitWords s with
    | nil => simp [hsplit, fuse] at hd
    | cons w ws =>
      have hw := hfirst.ne_nil (hwords w (by simp [hsplit])).1
      rw [hsplit, fuse, List.head?_append_of_ne_nil _ hw] at hd
      exact ⟨w, hd⟩

/-! ## Words between spaces -/

theorem space_not_mem_capitalize (h : chr ' ' ∉ w) : chr ' ' ∉ capitalize w := by
  intro hmem
  rcases mem_capitalize hmem with hw | hsep
  · exact h hw
  · revert hsep
    decide

theorem join_inj {vs : List Text} (hvs : vs ≠ []) (hws : ws ≠ []) (hv : ∀ v ∈ vs, c ∉ v)
    (hw : ∀ w ∈ ws, c ∉ w) : join [c] vs = join [c] ws ↔ vs = ws := by
  constructor
  · intro h
    have hsplit := congrArg (splitOn c) h
    rwa [splitOn_join hvs hv, splitOn_join hws hw] at hsplit
  · rintro rfl
    rfl

theorem title_eq_self_iff (s : Text) :
    title (title s) = title s ↔ CapitalsOpen (fun c _ _ => c == ' ') (title s) := by
  have hspaces : ∀ w ∈ (splitOn ' ' s).map capitalize, chr ' ' ∉ w := by
    intro w hw
    obtain ⟨v, hv, rfl⟩ := List.mem_map.1 hw
    exact space_not_mem_capitalize (not_mem_of_mem_splitOn hv)
  have hhead : ∀ w ∈ (splitOn ' ' s).map capitalize,
      capitalize w = w ↔ ∀ c ∈ w.tail, isCapital c = false := by
    intro w hw
    obtain ⟨v, -, rfl⟩ := List.mem_map.1 hw
    cases hw : capitalize v with
    | nil => simp [capitalize]
    | cons d t => exact capitalize_eq_self_iff (head_capitalize (w := v) (by simp [hw]))
  have hne : (splitOn ' ' s).map capitalize ≠ [] := by
    obtain ⟨piece, pieces, hsplit⟩ := exists_splitOn_eq ' ' s
    simp [hsplit]
  unfold title
  generalize (splitOn ' ' s).map capitalize = ws at hspaces hhead hne
  have hagain : ∀ v ∈ ws.map capitalize, chr ' ' ∉ v := by
    intro v hv
    obtain ⟨w, hw, rfl⟩ := List.mem_map.1 hv
    exact space_not_mem_capitalize (hspaces w hw)
  have hmap : ws.map capitalize = ws ↔ ∀ w ∈ ws, capitalize w = w := by
    simpa using List.map_inj_left (f := capitalize) (g := id) (l := ws)
  rw [splitOn_join hne hspaces, capitalsOpen_join_iff hspaces,
    join_inj (by simpa using hne) hne hagain hspaces, hmap]
  exact forall₂_congr hhead

end Stencil.Text
