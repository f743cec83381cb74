import Stencil.Proofs.Text.Capitals

/-!
# Plain texts

In a text of plain words every capital that capitalising makes begins a word.
-/

namespace Stencil.Text

variable {first : Text → Text} {c d : CodePoint} {s rest w : Text} {ws : List Text}

/-- A word of two or more letters and digits of ASCII. -/
structure IsPlainWord (w : Text) : Prop where
  two_le : 2 ≤ w.length
  alphanum : ∀ c ∈ w, c.isAlphanum = true

/-- A text of ASCII with plain words only. -/
structure IsPlain (s : Text) : Prop where
  ascii : ∀ c ∈ s, c.toNat < 0x80
  words : ∀ w ∈ splitWords s, IsPlainWord w

/-! ## Letters and digits -/

theorem isAlphanum_cases (h : c.isAlphanum = true) :
    c.isUpper = true ∨ (c.isLower || c.isDigit) = true := by
  rw [← Bool.or_eq_true, ← Bool.or_assoc]
  exact h

theorem toNat_lt_of_isAlphanum (h : c.isAlphanum = true) : c.toNat < 0x80 := by
  rcases isAlphanum_cases h with hupper | hsmall
  · exact ascii_of_isUpper hupper
  · rcases Bool.or_eq_true_iff.1 hsmall with hlower | hdigit
    · have := CodePoint.isLower_iff.1 hlower
      omega
    · have := CodePoint.isDigit_iff.1 hdigit
      omega

theorem toLower_of_isAlphanum (h : c.isAlphanum = true) :
    (c.toLower.isLower || c.toLower.isDigit) = true := by
  rcases isAlphanum_cases h with hupper | hsmall
  · exact forall_isUpper (p := fun c => (c.toLower.isLower || c.toLower.isDigit) = true)
      (by decide) hupper
  · cases hc : c.isUpper with
    | true =>
      rw [isLower_of_isUpper hc, isDigit_of_isUpper hc] at hsmall
      cases hsmall
    | false => rwa [toLower_of_not_isUpper hc]

theorem toNat_toUpper_lt (h : c.toNat < 0x80) : c.toUpper.toNat < 0x80 := by
  have hall : ∀ n < 0x80, (CodePoint.ofNat n).toUpper.toNat < 0x80 := by decide
  have hc := hall c.toNat h
  rwa [CodePoint.ofNat_toNat] at hc

theorem isSmall_of_mem_lower (h : ∀ c ∈ s, c.isAlphanum = true) (hd : d ∈ lower s) :
    (d.isLower || d.isDigit) = true := by
  obtain ⟨c, hc, hcases⟩ := exists_of_mem_lowerFrom hd
  rcases hcases with hmem | ⟨rfl, -⟩
  · rw [lowerChar_of_ascii (toNat_lt_of_isAlphanum (h c hc)), List.mem_singleton] at hmem
    rw [hmem]
    exact toLower_of_isAlphanum (h c hc)
  · have hsigma : capitalSigma.isAlphanum = false := by decide
    rw [h _ hc] at hsigma
    cases hsigma

/-! ## Words side by side -/

/-- Behind its first character a word has no capital, and a hump can follow it. -/
structure EndsSmall (w : Text) : Prop where
  tail : ∀ d ∈ w.tail, isCapital d = false
  last : ∀ c ∈ w.getLast?, (c.isLower || c.isDigit) = true

theorem EndsSmall.append (hw : EndsSmall w)
    (hhead : ∀ d ∈ rest.head?, isCapital d = true → d.isUpper = true)
    (hrest : CapitalsOpen isHump rest) : CapitalsOpen isHump (w ++ rest) := by
  apply hrest.append hw.tail
  rintro c d back hlast rfl hd
  rw [isHump, isSmallHump, hw.last c hlast, hhead d rfl hd]
  rfl

theorem IsPlainWord.endsSmall_lower (h : IsPlainWord w) : EndsSmall (lower w) where
  tail _ hd := isCapital_of_mem_lower (List.mem_of_mem_tail hd)
  last _ hc := isSmall_of_mem_lower h.alphanum (List.mem_of_getLast? hc)

theorem IsPlainWord.endsSmall_capitalize (h : IsPlainWord w) : EndsSmall (capitalize w) := by
  obtain ⟨htwo, halphanum⟩ := h
  cases w with
  | nil => simp at htwo
  | cons c s =>
    rw [List.forall_mem_cons] at halphanum
    have hs : lower s ≠ [] := by
      apply lower_ne_nil
      rintro rfl
      simp at htwo
    rw [capitalize, upperChar_of_ascii (toNat_lt_of_isAlphanum halphanum.1), List.singleton_append]
    refine ⟨fun _ => isCapital_of_mem_lower, ?_⟩
    intro e he
    rw [Option.mem_def, List.getLast?_cons_of_ne_nil hs] at he
    exact isSmall_of_mem_lower halphanum.2 (List.mem_of_getLast? he)

theorem isUpper_of_head_flatMap_capitalize (h : ∀ w ∈ ws, IsPlainWord w)
    (hd : d ∈ (ws.flatMap capitalize).head?) (hcapital : isCapital d = true) :
    d.isUpper = true := by
  cases ws with
  | nil => cases hd
  | cons w ws =>
    rw [List.forall_mem_cons] at h
    obtain ⟨⟨htwo, halphanum⟩, -⟩ := h
    cases w with
    | nil => simp at htwo
    | cons c s =>
      rw [List.forall_mem_cons] at halphanum
      have hascii := toNat_lt_of_isAlphanum halphanum.1
      simp only [List.flatMap_cons, capitalize, upperChar_of_ascii hascii, List.cons_append,
        List.head?_cons, Option.mem_def, Option.some.injEq] at hd
      rw [← hd] at hcapital ⊢
      rwa [isCapital_eq_isUpper (toNat_toUpper_lt hascii)] at hcapital

theorem capitalsOpen_flatMap_capitalize (h : ∀ w ∈ ws, IsPlainWord w) :
    CapitalsOpen isHump (ws.flatMap capitalize) := by
  induction ws with
  | nil => exact capitalsOpen_nil
  | cons w ws ih =>
    rw [List.forall_mem_cons] at h
    rw [List.flatMap_cons]
    apply h.1.endsSmall_capitalize.append _ (ih h.2)
    exact fun d => isUpper_of_head_flatMap_capitalize h.2

theorem capitalsOpen_fuse (hfirst : ∀ w, IsPlainWord w → EndsSmall (first w))
    (h : ∀ w ∈ ws, IsPlainWord w) : CapitalsOpen isHump (fuse first ws) := by
  cases ws with
  | nil => exact capitalsOpen_nil
  | cons w ws =>
    rw [List.forall_mem_cons] at h
    apply (hfirst w h.1).append _ (capitalsOpen_flatMap_capitalize h.2)
    exact fun d => isUpper_of_head_flatMap_capitalize h.2

/-! ## Whole texts -/

theorem IsPlain.capitalsOpen_pascal (h : IsPlain s) : CapitalsOpen isHump (pascal s) := by
  rw [pascal_eq]
  exact capitalsOpen_fuse (fun _ => IsPlainWord.endsSmall_capitalize) h.words

theorem IsPlain.capitalsOpen_camel (h : IsPlain s) : CapitalsOpen isHump (camel s) := by
  rw [camel_eq]
  exact capitalsOpen_fuse (fun _ => IsPlainWord.endsSmall_lower) h.words

theorem IsPlain.capitalsOpen_title (h : IsPlain s) :
    CapitalsOpen (fun c _ _ => c == ' ') (title s) := by
  rw [title, capitalsOpen_join_iff]
  · intro w hw d hd
    obtain ⟨v, hv, rfl⟩ := List.mem_map.1 hw
    cases v with
    | nil => simp [capitalize] at hd
    | cons c t =>
      have hc := h.ascii c ((isInfix_of_mem_splitOn hv).subset List.mem_cons_self)
      rw [capitalize, upperChar_of_ascii hc, List.singleton_append, List.tail_cons] at hd
      exact isCapital_of_mem_lower hd
  · intro w hw
    obtain ⟨v, hv, rfl⟩ := List.mem_map.1 hw
    exact space_not_mem_capitalize (not_mem_of_mem_splitOn hv)

end Stencil.Text
