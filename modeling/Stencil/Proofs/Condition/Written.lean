import Mathlib.Data.Option.Basic
import Stencil.Proofs.Condition.Pieces
import Stencil.Template.Token

/-!
# What is accepted as a condition

Whatever is read as a condition is written in the grammar, with one licence: a literal that starts
with a quote ends with it, but may hold it in between as well. So two quoted texts and what stands
between them pass for one literal.
-/

namespace Stencil

open Text

variable {s term path value p token : Text} {t : Term} {l : Literal}

/-! ## The grammar with the licence -/

/-- A literal between two quotes, whatever it holds, or a bare one that starts with no quote. -/
inductive Literal.Written : Literal → Text → Prop
  | quoted {q : CodePoint} {body : Text} : isQuote q → Written ⟨body, true⟩ (q :: (body ++ [q]))
  | bare {c : CodePoint} {s : Text} : isQuote c = false → (∀ d ∈ c :: s, isBlank d = false) →
      Written ⟨c :: s, false⟩ (c :: s)

/-- A term without blanks around it, and its literal as it stands there. -/
inductive Term.Written : Term → Option Text → Text → Prop
  | truth {p w : Text} {negated : Bool} : isPath p → Blanks w →
      Written (.truth p negated) none (negation negated w p)
  | compare {p w w' token : Text} {op : Comparison} {l : Literal} : isPath p → Blanks w →
      Blanks w' → l.Written token → chr '\n' ∉ token →
      Written (.compare p op l) (some token) (p ++ w ++ op.symbol ++ w' ++ token)
  | has {p w w' token : Text} {l : Literal} : isPath p → Gap w → Gap w' → l.Written token →
      chr '\n' ∉ token →
      Written (.member p l false) (some token) (text "has" ++ w ++ p ++ w' ++ token)
  | includes {p v w w' token : Text} {l : Literal} {negated : Bool} : isPath p → Blanks v →
      Blanks w → Blanks w' → l.Written token → chr '\n' ∉ token →
      Written (.member p l negated) (some token) (negation negated v (inclusion p w token w'))

/-! ## Literals -/

theorem Literal.read_eq_ok_iff : Literal.read s = .ok l ↔ l.Written (trim s) := by
  unfold Literal.read
  constructor
  · intro h
    split at h
    · cases h
    · next c rest hs =>
      rw [hs]
      split at h
      · next hquote =>
        simp only [Bool.and_eq_true, beq_iff_eq] at hquote
        cases h
        have hrest := List.dropLast_append_getLast? c hquote.2
        conv => arg 2; rw [← hrest]
        exact .quoted hquote.1
      · split at h
        · cases h
        · next hbare =>
          cases h
          simp only [Bool.or_eq_true, not_or, Bool.not_eq_true, List.any_eq_false] at hbare
          exact .bare hbare.2 hbare.1
  · intro h
    cases hs : trim s with
    | nil =>
      rw [hs] at h
      cases h
    | cons c rest =>
      rw [hs] at h
      cases h with
      | quoted hq => simp [hq]
      | bare hq hblank =>
        have hany : (c :: rest).any isBlank = false := by
          rw [List.any_eq_false]
          intro d hd
          simp [hblank d hd]
        simp only [hq, hany]
        rfl

theorem Literal.Written.tight (h : l.Written token) : Tight token := by
  cases h with
  | @quoted q body hq =>
    have hend : Tight [q] := .of_forall (List.cons_ne_nil q []) (by simp [isBlank_of_isQuote hq])
    exact hend.append body hend
  | bare _ hs => exact .of_forall (List.cons_ne_nil _ _) hs

theorem written_of_readLiteral (h : Literal.read value = .ok l) (hvalue : Tight value) :
    l.Written value := by
  rw [Literal.read_eq_ok_iff, hvalue.trim_eq] at h
  exact h

/-! ## The forms of a term -/

theorem isPath_of_checkPath (h : checkPath path = .ok p) : isPath path ∧ p = path := by
  unfold checkPath at h
  split at h
  · next hpath =>
    cases h
    exact ⟨hpath, rfl⟩
  · cases h

theorem readMember_eq_ok {negated : Bool} (h : (do
    let l ← Literal.read value
    return Term.member (← checkPath path) l negated) = Except.ok t) :
    ∃ l, Literal.read value = .ok l ∧ isPath path ∧ t = .member path l negated := by
  obtain ⟨l, hl, h⟩ := Outcome.bind_eq_ok_iff.1 h
  obtain ⟨p, hp, h⟩ := Outcome.bind_eq_ok_iff.1 h
  cases h
  obtain ⟨hpath, rfl⟩ := isPath_of_checkPath hp
  exact ⟨l, hl, hpath, rfl⟩

theorem exists_gap (h : s.head?.any isBlank) : ∃ w, Gap w ∧ s = w ++ trimStart s := by
  obtain ⟨w, hw, hs⟩ := exists_trimStart s
  refine ⟨w, ⟨?_, hw⟩, hs⟩
  rintro rfl
  -- Without blanks in front, the first character would be none.
  have hhead := head?_trimStart s
  rw [List.nil_append] at hs
  rw [← hs] at hhead
  clear hs
  cases hc : s.head? <;> simp_all

theorem exists_of_takeHas? (h : takeHas? term = some (path, value)) :
    ∃ w w', Gap w ∧ Gap w' ∧ term = text "has" ++ w ++ path ++ w' ++ value ∧
      value ≠ [] ∧ value.head?.all (!isBlank ·) ∧ chr '\n' ∉ value := by
  unfold takeHas? at h
  simp only [Option.bind_eq_bind, Option.bind_eq_some_iff, Option.guard_eq_some'] at h
  obtain ⟨rest, hrest, _, hblank, _, hguard, h⟩ := h
  cases h
  obtain ⟨w, hw, hfront⟩ := exists_gap hblank
  have hword := List.takeWhile_append_dropWhile (p := (!isBlank ·)) (l := trimStart rest)
  set back := (trimStart rest).dropWhile (!isBlank ·) with hback
  simp only [Bool.and_eq_true, Bool.not_eq_true', List.isEmpty_eq_false_iff,
    List.contains_eq_mem, decide_eq_false_iff_not] at hguard
  obtain ⟨⟨-, hvalue⟩, hline⟩ := hguard
  have hstop : back.head?.any isBlank := by
    have hhead := List.head?_dropWhile_not (!isBlank ·) (trimStart rest)
    rw [← hback] at hhead
    cases hc : back.head? with
    | none =>
      rw [List.head?_eq_none_iff.1 hc] at hvalue
      exact absurd rfl hvalue
    | some c => simpa [hc] using hhead
  obtain ⟨w', hw', hgap⟩ := exists_gap hstop
  refine ⟨w, w', hw, hw', ?_, hvalue, head?_trimStart back, hline⟩
  rw [eq_append_of_after? hrest, List.append_assoc _ w', ← hgap, List.append_assoc _ _ back, hword,
    List.append_assoc, ← hfront]

theorem exists_of_cutIncludes? {inner : Text} (h : cutIncludes? p s = some (path, inner)) :
    p ++ s = path ++ text ".includes(" ++ inner ∧ isArgument inner := by
  induction s generalizing p with
  | nil => cases h
  | cons c s ih =>
    unfold cutIncludes? at h
    dsimp only at h
    split at h
    · next inner hinner =>
      cases h
      obtain ⟨hafter, hfits⟩ := Option.filter_eq_some_iff.1 hinner
      rw [Bool.and_eq_true] at hfits
      rw [eq_append_of_after? hafter, ← List.append_assoc]
      exact ⟨rfl, hfits.2⟩
    · split at h
      · cases h
      · rw [List.append_cons]
        exact ih h

theorem exists_of_takeIncludes? {inner : Text} (h : takeIncludes? term = some (path, inner)) :
    term = path ++ text ".includes(" ++ inner ++ [chr ')'] ∧ isArgument inner := by
  unfold takeIncludes? at h
  split at h
  · next hlast =>
    obtain ⟨hcut, hinner⟩ := exists_of_cutIncludes? h
    refine ⟨?_, hinner⟩
    rw [← hcut, List.nil_append, List.dropLast_append_getLast? (chr ')') (by simpa using hlast)]
  · cases h

theorem exists_of_takeCompared? {op : Comparison}
    (h : takeCompared? term = some (path, op, value)) :
    ∃ w w', Blanks w ∧ Blanks w' ∧ term = path ++ w ++ op.symbol ++ w' ++ value ∧
      value.head?.all (!isBlank ·) ∧ chr '\n' ∉ value := by
  unfold takeCompared? at h
  simp only [Option.bind_eq_bind, Option.bind_eq_some_iff, Option.guard_eq_some'] at h
  obtain ⟨_, -, ⟨op, rest⟩, hop, _, hline, h⟩ := h
  cases h
  obtain ⟨op', -, hafter⟩ := List.exists_of_findSome?_eq_some hop
  obtain ⟨rest, hrest, he⟩ := Option.map_eq_some_iff.1 hafter
  cases he
  obtain ⟨w, hw, hfront⟩ := exists_trimStart
    (term.dropWhile fun c => !isBlank c && !isComparisonChar c)
  obtain ⟨w', hw', hgap⟩ := exists_trimStart rest
  refine ⟨w, w', hw, hw', ?_, head?_trimStart rest, by simpa using hline⟩
  rw [List.append_assoc _ w', ← hgap, List.append_assoc, ← eq_append_of_after? hrest,
    List.append_assoc, ← hfront, List.takeWhile_append_dropWhile]

/-! ## Terms -/

namespace Term

theorem written_of_readPlain {negated : Bool} {w : Text} (hterm : Tight term) (hw : Blanks w)
    (h : readPlain negated term = .ok t) :
    ∃ token?, t.Written token? (negation negated w term) := by
  unfold readPlain at h
  split at h
  · next path inner hincludes =>
    obtain ⟨rfl, hinner⟩ := exists_of_takeIncludes? hincludes
    obtain ⟨l, hl, hpath, rfl⟩ := readMember_eq_ok h
    obtain ⟨v, v', hv, hv', hpad⟩ := exists_trim inner
    have hwritten := Literal.read_eq_ok_iff.1 hl
    have hline : chr '\n' ∉ trim inner := by
      have hne := hwritten.tight.ne_nil
      simpa [isArgument, hne] using hinner
    have hwhole : (member path l negated).Written (some (trim inner))
        (negation negated w (inclusion path v (trim inner) v')) :=
      .includes hpath hw hv hv' hwritten hline
    rw [inclusion, ← hpad] at hwhole
    exact ⟨_, hwhole⟩
  · split at h
    · next path op value hcompared =>
      obtain ⟨v, v', hv, hv', rfl, hhead, hline⟩ := exists_of_takeCompared? hcompared
      split at h
      · cases h
      · next hplain =>
        rw [negation, if_neg hplain]
        obtain ⟨l, hl, h⟩ := Outcome.bind_eq_ok_iff.1 h
        obtain ⟨p, hp, h⟩ := Outcome.bind_eq_ok_iff.1 h
        cases h
        obtain ⟨hpath, rfl⟩ := isPath_of_checkPath hp
        have hne : value ≠ [] := by
          rintro rfl
          cases hl
        have htight := hterm.of_suffix (List.suffix_append _ value) hne hhead
        exact ⟨some value, .compare hpath hv hv' (written_of_readLiteral hl htight) hline⟩
    · split at h
      · cases h
      · obtain ⟨p, hp, h⟩ := Outcome.bind_eq_ok_iff.1 h
        cases h
        obtain ⟨hpath, rfl⟩ := isPath_of_checkPath hp
        exact ⟨none, .truth hpath hw⟩

theorem tight_of_read (h : Term.read s = .ok t) : Tight (trim s) := by
  apply tight_trim
  intro hempty
  rw [Term.read, hempty] at h
  cases h

theorem written_of_read (h : Term.read s = .ok t) : ∃ token?, t.Written token? (trim s) := by
  have hterm := tight_of_read h
  unfold Term.read at h
  dsimp only at h
  split at h
  · cases h
  · split at h
    · next path value hhas =>
      obtain ⟨w, w', hw, hw', hs, hne, hhead, hline⟩ := exists_of_takeHas? hhas
      obtain ⟨l, hl, hpath, rfl⟩ := readMember_eq_ok h
      rw [hs] at hterm ⊢
      have htight := hterm.of_suffix (List.suffix_append _ value) hne hhead
      exact ⟨some value, .has hpath hw hw' (written_of_readLiteral hl htight) hline⟩
    · have hplain : ∀ t, readPlain false (trim s) = .ok t → ∃ token?, t.Written token? (trim s) :=
        fun t ht => by simpa [negation] using written_of_readPlain hterm blanks_nil ht
      split at h
      · next rest hs =>
        split at h
        · exact hplain t h
        · split at h
          · cases h
          · next hrest =>
            have hne : trimStart rest ≠ [] := by
              intro hnil
              rw [trim, hnil] at hrest
              exact hrest rfl
            obtain ⟨w, hw, hpad⟩ := exists_trimStart rest
            have hsuffix : trimStart rest <:+ chr '!' :: rest :=
              (List.dropWhile_suffix isBlank).trans (List.suffix_cons (chr '!') rest)
            rw [hs] at hterm ⊢
            have htight := hterm.of_suffix hsuffix hne (head?_trimStart rest)
            -- The back of the term is not blank, so trimming takes blanks off the front alone.
            have htrim : trim rest = trimStart rest := by
              rw [← htight.trim_eq, trim, trim, trimStart_trimStart]
            rw [htrim] at h
            have hwritten := written_of_readPlain htight hw h
            rwa [negation, if_pos rfl, ← hpad] at hwritten
      · exact hplain t h

end Term

/-! ## Quotes -/

/-- A bare literal has no quote in front, so one that has is quoted. -/
theorem Literal.Written.between {q : CodePoint} (h : l.Written token) (hq : isQuote q)
    (hhead : token.head? = some q) :
    ∃ body, token = q :: (body ++ [q]) ∧ l = ⟨body, true⟩ := by
  cases h with
  | @quoted q' body hq' =>
    obtain rfl : q' = q := Option.some.inj hhead
    exact ⟨body, rfl, rfl⟩
  | @bare c s hc _ =>
    obtain rfl : c = q := Option.some.inj hhead
    rw [hq] at hc
    cases hc

def Term.literal? : Term → Option Literal
  | truth .. => none
  | compare _ _ l | member _ l _ => some l

theorem Term.Written.literal {token? : Option Text} (h : t.Written token? s)
    (htoken : token ∈ token?) : ∃ l, t.literal? = some l ∧ l.Written token := by
  cases h with
  | truth => cases htoken
  | compare _ _ _ hl _ | has _ _ _ hl _ | includes _ _ _ _ hl _ =>
    cases htoken
    exact ⟨_, rfl, hl⟩

theorem count_between (q : CodePoint) (body : Text) :
    (q :: (body ++ [q])).count q = 2 ↔ q ∉ body := by
  rw [List.count_cons_self, List.count_append, List.count_singleton_self, ← List.count_eq_zero]
  omega

/-- What is accepted: a literal that is bare or stands between two quotes of one kind, and a
condition whose pieces are terms of the grammar with such literals. A literal with a quote in front
has it at its end as well, and is one quoted run exactly if it does not hold it a third time. -/
theorem Condition.read_written (value : Text) (l : Literal) (s : Text) (c : Condition) :
    (Literal.read value = .ok l ↔ l.Written (trim value)) ∧
      (read s = .ok c → ∃ pieces, s = join c.joint pieces ∧
        List.Forall₂ (fun piece t => ∃ token?, t.Written token? (trim piece) ∧
          ∀ token ∈ token?, ∀ q, isQuote q → token.head? = some q →
            ∃ body, token = q :: (body ++ [q]) ∧ t.literal? = some ⟨body, true⟩ ∧
              (token.count q = 2 ↔ q ∉ body)) pieces c.terms) := by
  refine ⟨Literal.read_eq_ok_iff, fun h => ?_⟩
  obtain ⟨pieces, hs, hread⟩ := exists_pieces h
  refine ⟨pieces, hs, hread.imp fun piece t ht => ?_⟩
  obtain ⟨token?, hwritten⟩ := Term.written_of_read ht
  refine ⟨token?, hwritten, fun token htoken q hq hhead => ?_⟩
  obtain ⟨l, hl, hliteral⟩ := hwritten.literal htoken
  obtain ⟨body, rfl, rfl⟩ := hliteral.between hq hhead
  exact ⟨body, rfl, hl, count_between q body⟩

theorem Condition.read_written_crossed :
    let s := text "a == \"it's\" && !b.includes( '\"' )"
    let c : Condition := .joined .all
      [.compare (text "a") .equal ⟨text "it's", true⟩, .member (text "b") ⟨text "\"", true⟩ true]
    Literal.Written ⟨text "it's", false⟩ (trim (text "it's ")) ∧ read s = .ok c ∧
      ∃ pieces, s = join c.joint pieces ∧
        List.Forall₂ (fun piece t => ∃ token?, t.Written token? (trim piece) ∧
          ∀ token ∈ token?, ∀ q, isQuote q → token.head? = some q →
            ∃ body, token = q :: (body ++ [q]) ∧ t.literal? = some ⟨body, true⟩ ∧
              (token.count q = 2 ↔ q ∉ body)) pieces c.terms := by
  intro s c
  have hbare : Literal.read (text "it's ") = .ok ⟨text "it's", false⟩ := by decide +kernel
  have hread : read s = .ok c := by decide +kernel
  obtain ⟨hliteral, haccepted⟩ := read_written (text "it's ") ⟨text "it's", false⟩ s c
  exact ⟨hliteral.1 hbare, hread, haccepted hread⟩

/-- Two quoted texts with a word between them are read as one literal, which holds its own quote. -/
theorem Condition.read_two_quoted :
    read (text "a == \"x\" y \"z\"") =
        .ok (.single (.compare (text "a") .equal ⟨text "x\" y \"z", true⟩)) ∧
      chr '"' ∈ text "x\" y \"z" := by
  decide +kernel

end Stencil
