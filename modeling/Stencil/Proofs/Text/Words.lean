import Stencil.Proofs.Numeral
import Stencil.Text.Words

/-!
# Where names are cut

Whether a name is cut between two characters depends on these two and the one behind them, so the
two passes over the text find the same humps as one look at each place. Nothing but separators is
lost.
-/

namespace Stencil.Text

variable {c d : CodePoint} {s rest back w : Text} {ws : List Text} {sep : CodePoint → Bool}
  {find? : (s : Text) → Option (Gap s)} {p : CodePoint → CodePoint → Text → Bool}

/-! ## Characters -/

theorem isWordSeparator_eq_false (hlow : 48 ≤ c.toNat) (hhigh : c.toNat ≤ 122)
    (hne : c.toNat ≠ 95) : isWordSeparator c = false := by
  refine Bool.eq_false_iff.2 fun h => ?_
  simp only [isWordSeparator, isBlank, Bool.or_eq_true, Bool.and_eq_true, decide_eq_true_eq,
    beq_iff_eq] at h
  rcases h with (hblank | rfl) | rfl
  · omega
  · exact absurd hlow (by decide)
  · exact hne rfl

theorem isLower_of_isUpper (h : c.isUpper = true) : c.isLower = false := by
  refine Bool.eq_false_iff.2 fun hlower => ?_
  have hc := CodePoint.isUpper_iff.1 h
  have hc' := CodePoint.isLower_iff.1 hlower
  omega

theorem isDigit_of_isUpper (h : c.isUpper = true) : c.isDigit = false := by
  refine Bool.eq_false_iff.2 fun hdigit => ?_
  have hc := CodePoint.isUpper_iff.1 h
  have hc' := CodePoint.isDigit_iff.1 hdigit
  omega

theorem isUpper_of_isLower (h : c.isLower = true) : c.isUpper = false := by
  refine Bool.eq_false_iff.2 fun hupper => ?_
  rw [isLower_of_isUpper hupper] at h
  cases h

/-! ## Humps -/

/-- Whether a small letter or a digit stands in front of a capital. -/
def isSmallHump (c d : CodePoint) : Bool := (c.isLower || c.isDigit) && d.isUpper

/-- Whether `c` and `d` are capitals in front of a small letter. -/
def isAcronymEnd (c d : CodePoint) (rest : Text) : Bool :=
  c.isUpper && d.isUpper && rest.head?.any CodePoint.isLower

/-- Whether a word starts between `c` and `d`, with `rest` behind them. -/
def isHump (c d : CodePoint) (rest : Text) : Bool := isSmallHump c d || isAcronymEnd c d rest

theorem isSmallHump_of_isUpper (h : c.isUpper = true) (d : CodePoint) :
    isSmallHump c d = false := by
  rw [isSmallHump, isLower_of_isUpper h, isDigit_of_isUpper h]
  rfl

theorem isWordSeparator_of_isHump (h : isHump c d rest = true) : isWordSeparator c = false := by
  simp only [isHump, isSmallHump, isAcronymEnd, Bool.or_eq_true, Bool.and_eq_true] at h
  obtain ⟨hlower | hdigit, -⟩ | ⟨⟨hupper, -⟩, -⟩ := h
  · have hc := CodePoint.isLower_iff.1 hlower
    exact isWordSeparator_eq_false (by omega) (by omega) (by omega)
  · have hc := CodePoint.isDigit_iff.1 hdigit
    exact isWordSeparator_eq_false (by omega) (by omega) (by omega)
  · have hc := CodePoint.isUpper_iff.1 hupper
    exact isWordSeparator_eq_false (by omega) (by omega) (by omega)

theorem isUpper_of_isHump (h : isHump c d rest = true) : d.isUpper = true := by
  simp only [isHump, isSmallHump, isAcronymEnd, Bool.or_eq_true, Bool.and_eq_true] at h
  rcases h with ⟨-, hd⟩ | ⟨⟨-, hd⟩, -⟩
  · exact hd
  · exact hd

theorem isHump_append_of_isHump (h : isHump c d back = true) (rest : Text) :
    isHump c d (back ++ rest) = true := by
  cases back with
  | nil =>
    rw [isHump, Bool.or_eq_true] at h ⊢
    refine .inl (h.resolve_right ?_)
    simp [isAcronymEnd]
  | cons e back => exact h

/-! ## Passes

Each pass puts a space into all places of one kind. What its search takes in one step has no other
place of that kind in it or at its end, so that none is left out. -/

/-- Puts a space into every place between two characters that `p` allows. -/
def space (p : CodePoint → CodePoint → Text → Bool) : Text → Text
  | c :: d :: rest =>
    if p c d rest then c :: ' ' :: space p (d :: rest) else c :: space p (d :: rest)
  | s => s

theorem space_of_eq_true (h : p c d rest = true) :
    space p (c :: d :: rest) = c :: ' ' :: space p (d :: rest) := by
  rw [space, if_pos h]

theorem space_of_eq_false (h : p c d rest = false) :
    space p (c :: d :: rest) = c :: space p (d :: rest) := by
  rw [space, h, if_neg Bool.false_ne_true]

theorem space_cons (h : ∀ d rest, s = d :: rest → p c d rest = false) :
    space p (c :: s) = c :: space p s := by
  cases s with
  | nil => rfl
  | cons d rest => exact space_of_eq_false (h d rest rfl)

theorem exists_space_cons (p : CodePoint → CodePoint → Text → Bool) (c : CodePoint) (s : Text) :
    ∃ t, space p (c :: s) = c :: t := by
  cases s with
  | nil => exact ⟨[], rfl⟩
  | cons d rest =>
    cases hp : p c d rest with
    | true => exact ⟨_, space_of_eq_true hp⟩
    | false => exact ⟨_, space_of_eq_false hp⟩

/-- A search for the places that `p` allows: around the gap that it finds there is no other one,
and where it finds nothing there is none behind the first character. -/
structure Finds (find? : (s : Text) → Option (Gap s)) (p : CodePoint → CodePoint → Text → Bool) :
    Prop where
  space_eq : ∀ {s gap}, find? s = some gap →
    space p s = gap.first ++ chr ' ' :: (gap.second ++ space p gap.rest)
  eq_false : ∀ {c d rest}, find? (c :: d :: rest) = none → p c d rest = false

theorem Finds.fillGaps_eq (h : Finds find? p) (s : Text) : fillGaps find? s = space p s := by
  fun_induction fillGaps find? s with
  | case1 => rfl
  | case2 c s gap hgap _ ih => rw [h.space_eq hgap, ih]
  | case3 c s hnone ih =>
    rw [ih, space_cons]
    rintro d rest rfl
    exact h.eq_false hnone

namespace Gap

theorem finds_ofHump? : Finds ofHump? fun c d _ => isSmallHump c d where
  space_eq := by
    intro s gap hgap
    unfold ofHump? at hgap
    split at hgap
    · next c d rest =>
      split at hgap
      · next hhump =>
        obtain rfl := Option.some.inj hgap
        have hupper : d.isUpper = true := (Bool.and_eq_true_iff.1 hhump).2
        rw [space_of_eq_true hhump, space_cons fun e _ _ => isSmallHump_of_isUpper hupper e]
        rfl
      · cases hgap
    · cases hgap
  eq_false := by
    intro c d rest hnone
    rw [ofHump?] at hnone
    split at hnone
    · cases hnone
    · next hhump => exact Bool.eq_false_iff.2 hhump

theorem isUpper_of_ofAcronym? {gap : Gap s} (h : ofAcronym? s = some gap) :
    ∃ c d rest, s = c :: d :: rest ∧ c.isUpper = true ∧ d.isUpper = true := by
  fun_induction ofAcronym? s with
  | case1 => cases h
  | case2 c s hc gap' hgap' ih =>
    obtain ⟨d, e, rest, rfl, hd, -⟩ := ih hgap'
    exact ⟨c, d, e :: rest, rfl, hc, hd⟩
  | case3 c hc d e rest hsmall hnone ih =>
    exact ⟨c, d, e :: rest, rfl, hc, (Bool.and_eq_true_iff.1 hsmall).1⟩
  | _ => cases h

theorem finds_ofAcronym? : Finds ofAcronym? isAcronymEnd where
  space_eq := by
    intro s gap hgap
    fun_induction ofAcronym? s with
    | case1 => cases hgap
    | case2 c s hc gap' hgap' ih =>
      obtain rfl := Option.some.inj hgap
      -- The two characters behind `c` are capitals, so that no small letter follows the first.
      obtain ⟨d, e, rest, rfl, -, he⟩ := isUpper_of_ofAcronym? hgap'
      have hc' : isAcronymEnd c d (e :: rest) = false := by
        simp [isAcronymEnd, isLower_of_isUpper he]
      rw [space_of_eq_false hc']
      exact congrArg (c :: ·) (ih hgap')
    | case3 c hc d e rest hsmall hnone ih =>
      obtain rfl := Option.some.inj hgap
      obtain ⟨hd, he⟩ := Bool.and_eq_true_iff.1 hsmall
      have hupper : e.isUpper = false := isUpper_of_isLower he
      have hend : isAcronymEnd c d (e :: rest) = true := by simp [isAcronymEnd, hc, hd, he]
      have hsecond : isAcronymEnd d e rest = false := by simp [isAcronymEnd, hupper]
      have hbehind : ∀ f back, rest = f :: back → isAcronymEnd e f back = false := by
        simp [isAcronymEnd, hupper]
      rw [space_of_eq_true hend, space_of_eq_false hsecond, space_cons hbehind]
      rfl
    | _ => cases hgap
  eq_false := by
    intro c d rest hnone
    refine Bool.eq_false_iff.2 fun hend => ?_
    rw [isAcronymEnd, Bool.and_eq_true, Bool.and_eq_true] at hend
    obtain ⟨⟨hc, hd⟩, hsmall⟩ := hend
    cases rest with
    | nil => cases hsmall
    | cons e back =>
      have he : e.isLower = true := hsmall
      unfold ofAcronym? at hnone
      rw [if_pos hc] at hnone
      split at hnone
      · cases hnone
      · simp [hd, he] at hnone

end Gap

/-- The spaces of the first pass neither make nor hide a place of the second. -/
theorem space_space (s : Text) :
    space (fun c d _ => isSmallHump c d) (space isAcronymEnd s) = space isHump s := by
  induction s with
  | nil => rfl
  | cons c s ih =>
    cases s with
    | nil => rfl
    | cons d rest =>
      obtain ⟨t, ht⟩ := exists_space_cons isAcronymEnd d rest
      rw [ht] at ih
      cases hend : isAcronymEnd c d rest with
      | true =>
        have hhump : isHump c d rest = true := by rw [isHump, hend, Bool.or_true]
        have hfront : ∀ e back, chr ' ' :: d :: t = e :: back → isSmallHump c e = false := by
          rintro e back heq
          obtain ⟨rfl, -⟩ := List.cons.inj heq
          exact Bool.and_false _
        rw [space_of_eq_true hend, ht, space_cons hfront, space_cons fun _ _ _ => rfl, ih,
          space_of_eq_true hhump]
      | false =>
        have hhump : isHump c d rest = isSmallHump c d := by rw [isHump, hend, Bool.or_false]
        rw [space_of_eq_false hend, ht]
        cases hsmall : isSmallHump c d with
        | true => rw [space_of_eq_true hsmall, ih, space_of_eq_true (hhump.trans hsmall)]
        | false => rw [space_of_eq_false hsmall, ih, space_of_eq_false (hhump.trans hsmall)]

/-! ## Runs -/

theorem splitWords_eq_runs (s : Text) : splitWords s = runs (space isHump s) := by
  rw [splitWords, Gap.finds_ofAcronym?.fillGaps_eq, Gap.finds_ofHump?.fillGaps_eq, space_space]

theorem splitRuns_of_eq_true (h : sep c = true) (s : Text) :
    splitRuns sep (c :: s) = [] :: splitRuns sep (s.dropWhile sep) := by
  rw [splitRuns, if_pos h]

theorem splitRuns_of_eq_false (h : sep c = false) (s : Text) :
    splitRuns sep (c :: s) = pushPiece c (splitRuns sep s) := by
  rw [splitRuns, h, if_neg Bool.false_ne_true]

theorem exists_splitRuns (h : s.head?.all sep) : ∃ pieces, splitRuns sep s = [] :: pieces := by
  cases s with
  | nil => exact ⟨[], by rw [splitRuns]⟩
  | cons c s => exact ⟨_, splitRuns_of_eq_true h s⟩

theorem splitRuns_append {pieces : List Text} (hw : ∀ c ∈ w, sep c = false)
    (hs : splitRuns sep s = [] :: pieces) : splitRuns sep (w ++ s) = w :: pieces := by
  induction w with
  | nil => exact hs
  | cons c w ih =>
    obtain ⟨hc, hw⟩ := List.forall_mem_cons.1 hw
    rw [List.cons_append, splitRuns_of_eq_false hc, ih hw]
    rfl

theorem runs_nil : runs [] = [] := by
  rw [runs, splitRuns]
  rfl

theorem runs_append (hne : w ≠ []) (hw : ∀ c ∈ w, isWordSeparator c = false)
    (hs : s.head?.all isWordSeparator) : runs (w ++ s) = w :: runs s := by
  obtain ⟨pieces, hpieces⟩ := exists_splitRuns hs
  simp [runs, splitRuns_append hw hpieces, hpieces, hne]

theorem runs_dropWhile (s : Text) : runs (s.dropWhile isWordSeparator) = runs s := by
  cases s with
  | nil => rfl
  | cons c s =>
    cases hc : isWordSeparator c with
    | true => simp [runs, splitRuns_of_eq_true hc, List.dropWhile_cons_of_pos hc]
    | false => rw [List.dropWhile_cons_of_neg (by simp [hc])]

theorem runs_of_isWordSeparator (h : isWordSeparator c = true) (s : Text) :
    runs (c :: s) = runs s := by
  rw [← runs_dropWhile (c :: s), List.dropWhile_cons_of_pos h, runs_dropWhile]

/-! ## Words -/

/-- A word with `rest` behind it: no separator and no hump is in it, and it is followed by one. -/
structure IsWordBefore (rest w : Text) : Prop where
  ne_nil : w ≠ []
  unseparated : ∀ c ∈ w, isWordSeparator c = false
  uncut : ∀ c d back, c :: d :: back <:+ w → isHump c d (back ++ rest) = false
  ends : ∀ c d back, w.getLast? = some c → rest = d :: back →
    isWordSeparator d = true ∨ isHump c d back = true

/-- The words of a text: what is left without separators, cut at them and at every hump. -/
inductive AreWords : Text → List Text → Prop
  | nil : AreWords [] []
  | separator {c : CodePoint} {s : Text} {ws : List Text} :
    isWordSeparator c = true → AreWords s ws → AreWords (c :: s) ws
  | word {w rest s : Text} {ws : List Text} : IsWordBefore rest w → w ++ rest = s →
    AreWords rest ws → AreWords s (w :: ws)

theorem isWordBefore_cons_cons_iff :
    IsWordBefore rest (c :: d :: w) ↔
      isWordSeparator c = false ∧ isHump c d (w ++ rest) = false ∧
        IsWordBefore rest (d :: w) := by
  constructor
  · intro h
    obtain ⟨hc, hw⟩ := List.forall_mem_cons.1 h.unseparated
    refine ⟨hc, h.uncut c d w (List.suffix_refl _), List.cons_ne_nil _ _, hw, ?_, ?_⟩
    · exact fun _ _ _ hsuffix => h.uncut _ _ _ (hsuffix.trans (List.suffix_cons _ _))
    · exact fun _ _ _ hlast => h.ends _ _ _ (by rwa [List.getLast?_cons_cons])
  · rintro ⟨hc, hcut, h⟩
    refine ⟨List.cons_ne_nil _ _, List.forall_mem_cons.2 ⟨hc, h.unseparated⟩, ?_, ?_⟩
    · intro c' d' back hsuffix
      obtain heq | hsuffix := List.suffix_cons_iff.1 hsuffix
      · obtain ⟨rfl, rfl, rfl⟩ : c' = c ∧ d' = d ∧ back = w := by simpa using heq
        exact hcut
      · exact h.uncut c' d' back hsuffix
    · intro c' d' back hlast
      rw [List.getLast?_cons_cons] at hlast
      exact h.ends c' d' back hlast

theorem isWordBefore_singleton_iff :
    IsWordBefore rest [c] ↔ isWordSeparator c = false ∧
      ∀ d back, rest = d :: back → isWordSeparator d = true ∨ isHump c d back = true := by
  constructor
  · exact fun h => ⟨h.unseparated c List.mem_cons_self, fun d back => h.ends c d back rfl⟩
  · rintro ⟨hc, hends⟩
    refine ⟨List.cons_ne_nil _ _, by simpa using hc, ?_, ?_⟩
    · intro c' d back hsuffix
      have hlength := hsuffix.length_le
      simp at hlength
    · intro c' d back hlast
      obtain rfl : c = c' := Option.some.inj hlast
      exact hends d back

/-- Spaces are put behind a word only, and only where no separator follows it. -/
theorem IsWordBefore.exists_space (h : IsWordBefore rest w) :
    ∃ t, space isHump (w ++ rest) = w ++ t ∧ t.head?.all isWordSeparator ∧
      runs t = runs (space isHump rest) := by
  induction w with
  | nil => exact (h.ne_nil rfl).elim
  | cons c w ih =>
    cases w with
    | nil =>
      obtain ⟨-, hends⟩ := isWordBefore_singleton_iff.1 h
      cases rest with
      | nil => exact ⟨[], rfl, rfl, rfl⟩
      | cons d back =>
        cases hhump : isHump c d back with
        | true =>
          have hspace : isWordSeparator ' ' = true := by decide
          exact ⟨_, space_of_eq_true hhump, hspace, runs_of_isWordSeparator hspace _⟩
        | false =>
          have hd : isWordSeparator d = true := (hends d back rfl).resolve_right (by simp [hhump])
          obtain ⟨t, ht⟩ := exists_space_cons isHump d back
          exact ⟨_, space_of_eq_false hhump, by rwa [ht], rfl⟩
    | cons d w =>
      obtain ⟨-, hcut, hw⟩ := isWordBefore_cons_cons_iff.1 h
      obtain ⟨t, ht, hhead, hruns⟩ := ih hw
      exact ⟨t, (space_of_eq_false hcut).trans (congrArg (c :: ·) ht), hhead, hruns⟩

theorem AreWords.splitWords_eq (h : AreWords s ws) : splitWords s = ws := by
  rw [splitWords_eq_runs]
  induction h with
  | nil => exact runs_nil
  | @separator c s ws hc _ ih =>
    have hcut : ∀ d rest, s = d :: rest → isHump c d rest = false := by
      refine fun d rest _ => Bool.eq_false_iff.2 fun hhump => ?_
      rw [isWordSeparator_of_isHump hhump] at hc
      cases hc
    rw [space_cons hcut, runs_of_isWordSeparator hc, ih]
  | word hw hs _ ih =>
    obtain ⟨t, ht, hhead, hruns⟩ := hw.exists_space
    rw [← hs, ht, runs_append hw.ne_nil hw.unseparated hhead, hruns, ih]

theorem exists_areWords (s : Text) : ∃ ws, AreWords s ws := by
  induction s with
  | nil => exact ⟨[], .nil⟩
  | cons c s ih =>
    obtain ⟨ws, hws⟩ := ih
    cases hc : isWordSeparator c with
    | true => exact ⟨ws, .separator hc hws⟩
    | false =>
      cases s with
      | nil =>
        have hword : IsWordBefore [] [c] := isWordBefore_singleton_iff.2 ⟨hc, by simp⟩
        exact ⟨[[c]], .word hword rfl .nil⟩
      | cons d rest =>
        by_cases hcut : isWordSeparator d = true ∨ isHump c d rest = true
        · have hword : IsWordBefore (d :: rest) [c] := by
            refine isWordBefore_singleton_iff.2 ⟨hc, fun d' back heq => ?_⟩
            obtain ⟨rfl, rfl⟩ := List.cons.inj heq
            exact hcut
          exact ⟨[c] :: ws, .word hword rfl hws⟩
        · -- The first word of the rest starts with `d`, and `c` is one more character of it.
          obtain ⟨hd, hhump⟩ := not_or.1 hcut
          cases hws with
          | separator hsep _ => exact absurd hsep hd
          | @word w _ _ ws hword hs hws =>
            obtain ⟨d', w', rfl⟩ := List.exists_cons_of_ne_nil hword.ne_nil
            obtain ⟨rfl, rfl⟩ := List.cons.inj hs
            have hlonger := isWordBefore_cons_cons_iff.2 ⟨hc, Bool.eq_false_iff.2 hhump, hword⟩
            exact ⟨_, .word hlonger rfl hws⟩

theorem AreWords.flatten_eq (h : AreWords s ws) : ws.flatten = s.filter (!isWordSeparator ·) := by
  induction h with
  | nil => rfl
  | separator hc _ ih => rw [ih, List.filter_cons_of_neg (by simp [hc])]
  | @word w _ _ _ hw hs _ ih =>
    have hfilter : w.filter (!isWordSeparator ·) = w := by
      refine List.filter_eq_self.2 fun c hc => ?_
      rw [hw.unseparated c hc, Bool.not_false]
    rw [List.flatten_cons, ih, ← hs, List.filter_append, hfilter]

theorem AreWords.exists_isWordBefore (h : AreWords s ws) (hw : w ∈ ws) :
    ∃ rest, IsWordBefore rest w := by
  induction h with
  | nil => cases hw
  | separator _ _ ih => exact ih hw
  | word hword _ _ ih =>
    obtain rfl | hw := List.mem_cons.1 hw
    · exact ⟨_, hword⟩
    · exact ih hw

theorem exists_isWordBefore_of_mem_splitWords (h : w ∈ splitWords s) :
    ∃ rest, IsWordBefore rest w := by
  obtain ⟨ws, hws⟩ := exists_areWords s
  rw [hws.splitWords_eq] at h
  exact hws.exists_isWordBefore h

/-- A name is cut at its separators and humps, and nowhere else: the words that `splitWords` gives
are the only ones with no cut inside and one between each two. Joined, they are the name without
its separators. -/
theorem splitWords_iff_areWords (s : Text) :
    (∀ ws, splitWords s = ws ↔ AreWords s ws) ∧
    (splitWords s).flatten = s.filter (!isWordSeparator ·) ∧
    ∀ w ∈ splitWords s, w ≠ [] ∧ (∀ c ∈ w, isWordSeparator c = false) ∧
      ∀ c d back, c :: d :: back <:+ w → isHump c d back = false := by
  obtain ⟨ws, hws⟩ := exists_areWords s
  rw [hws.splitWords_eq]
  refine ⟨?_, hws.flatten_eq, ?_⟩
  · rintro ws'
    constructor
    · rintro rfl
      exact hws
    · exact fun hws' => hws.splitWords_eq.symm.trans hws'.splitWords_eq
  · intro w hw
    obtain ⟨rest, hword⟩ := hws.exists_isWordBefore hw
    refine ⟨hword.ne_nil, hword.unseparated, fun c d back hsuffix => ?_⟩
    refine Bool.eq_false_iff.2 fun hhump => ?_
    have hrest := isHump_append_of_isHump hhump rest
    rw [hword.uncut c d back hsuffix] at hrest
    cases hrest

example : splitWords (text "parseHTTPResponse2XML-now") =
    [text "parse", text "HTTP", text "Response2", text "XML", text "now"] := by decide +kernel

end Stencil.Text
