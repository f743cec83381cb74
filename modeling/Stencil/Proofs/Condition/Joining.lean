import Stencil.Proofs.Condition.Written
import Stencil.Proofs.Text.Parts

/-!
# Joining conditions

Terms that are read one by one are read together when a combinator stands between them, as long as
no quote that is left open in one of them meets its like in a later one: such a quote would make a
run of what stands between, and the combinator in it would be lost.
-/

namespace Stencil

open Text

variable {s rest : Text} {quote : Option CodePoint} {t : Term}

/-! ## Quotes that stand alone -/

/-- The quotes that neither open nor close a run; `quote` is the one that is open in front. -/
def strayQuotes (quote : Option CodePoint) : Text → List CodePoint
  | [] => []
  | c :: s =>
    match quote with
    | some q => strayQuotes (if c == q then none else some q) s
    | none =>
      if isQuote c then
        if s.contains c then strayQuotes (some c) s else c :: strayQuotes none s
      else strayQuotes none s

theorem strayQuotes_inside (q c : CodePoint) (s : Text) :
    strayQuotes (some q) (c :: s) = strayQuotes (if c == q then none else some q) s := by
  rw [strayQuotes]

theorem strayQuotes_quoted {c : CodePoint} (hc : isQuote c) (hs : c ∈ s) :
    strayQuotes none (c :: s) = strayQuotes (some c) s := by
  simp [strayQuotes, hc, hs]

theorem strayQuotes_single {c : CodePoint} (h : isQuote c → c ∉ s) :
    strayQuotes none (c :: s) =
      if isQuote c then c :: strayQuotes none s else strayQuotes none s := by
  by_cases hc : isQuote c
  · simp [strayQuotes, hc, h hc]
  · simp [strayQuotes, hc]

theorem head?_ne_mark (h : rest.head?.any isBlank) (op : Combinator) :
    rest.head? ≠ some op.mark := by
  intro hmark
  rw [hmark] at h
  cases op <;> cases h

theorem mem_of_closed {q c : CodePoint} (h : q ∈ c :: s) :
    ∀ q' ∈ (if c == q then none else some q), q' ∈ s := by
  intro q' hq'
  split at hq'
  · cases hq'
  · next hne =>
    cases hq'
    exact List.mem_of_ne_of_mem (fun heq => hne (beq_iff_eq.2 heq.symm)) h

/-- A single piece is passed over if no stray quote of it stands in what follows. -/
theorem splitTerms_append (hrest : rest.head?.any isBlank) (hclosed : ∀ q ∈ quote, q ∈ s)
    (hcut : (splitTerms quote s).2 = []) (hstray : ∀ q ∈ strayQuotes quote s, q ∉ rest) :
    splitTerms quote (s ++ rest) =
      (s ++ (splitTerms none rest).1, (splitTerms none rest).2) := by
  induction quote, s using splitTerms_induction with
  | nil quote =>
    cases quote with
    | none => rfl
    | some q => cases hclosed q rfl
  | inside q c s ih =>
    rw [splitTerms_inside] at hcut
    rw [strayQuotes_inside] at hstray
    rw [List.cons_append, splitTerms_inside, ih (mem_of_closed (hclosed q rfl)) hcut hstray]
    rfl
  | quoted c s hc hs ih =>
    rw [splitTerms_quote hc hs] at hcut
    rw [strayQuotes_quoted hc hs] at hstray
    rw [List.cons_append, splitTerms_quote hc (List.mem_append_left rest hs),
      ih (fun q hq => by cases hq; exact hs) hcut hstray]
    rfl
  | joint op s _ =>
    rw [splitTerms_symbol] at hcut
    cases hcut
  | single c s hquote hjoint ih =>
    rw [splitTerms_single hquote hjoint] at hcut
    rw [strayQuotes_single hquote] at hstray
    have hlater : ∀ q ∈ strayQuotes none s, q ∉ rest := by
      intro q hq
      apply hstray
      split
      · exact List.mem_cons_of_mem c hq
      · exact hq
    have hout : isQuote c → c ∉ s ++ rest := by
      intro hc
      rw [if_pos hc] at hstray
      simpa using ⟨hquote hc, hstray c List.mem_cons_self⟩
    have hnone := not_symbol_isPrefix hjoint fun op _ => head?_ne_mark hrest op
    rw [List.cons_append, splitTerms_single hout hnone, ih (fun q hq => by cases hq) hcut hlater]
    rfl

theorem first_of_open {q : CodePoint} (h : q ∉ s) (rest : Text) :
    (splitTerms (some q) (s ++ rest)).1 = s ++ (splitTerms (some q) rest).1 := by
  induction s with
  | nil => rfl
  | cons c s ih =>
    rw [List.mem_cons, not_or] at h
    rw [List.cons_append, splitTerms_inside, if_neg (by simpa using Ne.symm h.1), pushFirst, ih h.2,
      List.cons_append]

/-- Else the first piece reaches up to a quote in what follows. -/
theorem first_of_stray (hrest : rest.head?.any isBlank) (hclosed : ∀ q ∈ quote, q ∈ s)
    (hcut : (splitTerms quote s).2 = []) {q : CodePoint} (hq : q ∈ strayQuotes quote s)
    (hmeet : q ∈ rest) :
    ∃ back, (splitTerms quote (s ++ rest)).1 = s ++ back ∧ ∃ c ∈ back, isQuote c := by
  induction quote, s using splitTerms_induction with
  | nil quote => cases hq
  | inside q' c s ih =>
    rw [splitTerms_inside] at hcut
    rw [strayQuotes_inside] at hq
    obtain ⟨back, hback, hc⟩ := ih (mem_of_closed (hclosed q' rfl)) hcut hq
    refine ⟨back, ?_, hc⟩
    rw [List.cons_append, splitTerms_inside, pushFirst, hback, List.cons_append]
  | quoted c s hc hs ih =>
    rw [splitTerms_quote hc hs] at hcut
    rw [strayQuotes_quoted hc hs] at hq
    obtain ⟨back, hback, hc'⟩ := ih (fun q hq => by cases hq; exact hs) hcut hq
    refine ⟨back, ?_, hc'⟩
    rw [List.cons_append, splitTerms_quote hc (List.mem_append_left rest hs), pushFirst, hback,
      List.cons_append]
  | joint op s _ =>
    rw [splitTerms_symbol] at hcut
    cases hcut
  | single c s hquote hjoint ih =>
    rw [splitTerms_single hquote hjoint] at hcut
    rw [strayQuotes_single hquote] at hq
    by_cases hopens : isQuote c ∧ c ∈ rest
    · obtain ⟨hc, hmem⟩ := hopens
      refine ⟨(splitTerms (some c) rest).1, ?_, c, mem_first_of_open hmem, hc⟩
      rw [List.cons_append, splitTerms_quote hc (List.mem_append_right s hmem), pushFirst,
        first_of_open (hquote hc), List.cons_append]
    · have hlater : q ∈ strayQuotes none s := by
        split at hq
        · next hc =>
          obtain rfl | hq := List.mem_cons.1 hq
          · exact absurd ⟨hc, hmeet⟩ hopens
          · exact hq
        · exact hq
      obtain ⟨back, hback, hc'⟩ := ih (fun q hq => by cases hq) hcut hlater
      have hout : isQuote c → c ∉ s ++ rest := by
        intro hc hm
        obtain hm | hm := List.mem_append.1 hm
        · exact hquote hc hm
        · exact hopens ⟨hc, hm⟩
      have hnone := not_symbol_isPrefix hjoint fun op _ => head?_ne_mark hrest op
      refine ⟨back, ?_, hc'⟩
      rw [List.cons_append, splitTerms_single hout hnone, pushFirst, hback, List.cons_append]

/-! ## A term tells how far it reaches -/

theorem blanks_append_inj {w w' a b u v : Text} (hw : Blanks w) (hw' : Blanks w') (ha : Tight a)
    (hb : Tight b) (h : w ++ (a ++ u) = w' ++ (b ++ v)) : w = w' ∧ a ++ u = b ++ v := by
  have hback : a ++ u = b ++ v := by
    rw [← ha.trimStart_append hw u, h, hb.trimStart_append hw' v]
  rw [hback] at h
  exact ⟨List.append_cancel_right h, hback⟩

theorem Literal.Written.length_eq {l : Literal} {a b : Text} (ha : l.Written a)
    (hb : l.Written b) : a.length = b.length := by
  cases ha <;> cases hb <;> simp

theorem Literal.Written.append_inj {l : Literal} {a b u v : Text} (ha : l.Written a)
    (hb : l.Written b) (h : a ++ u = b ++ v) : u = v :=
  (List.append_inj h (ha.length_eq hb)).2

theorem negation_append_inj {a b w w' z : Text} {negated : Bool} (ha : Tight a) (hb : Tight b)
    (hw : Blanks w) (hw' : Blanks w') (h : negation negated w a ++ z = negation negated w' b) :
    a ++ z = b := by
  cases negated with
  | false => exact h
  | true =>
    simp only [negation, if_true, List.cons_append, List.cons.injEq, true_and,
      List.append_assoc] at h
    have hback := (blanks_append_inj (v := []) hw hw' ha hb (by simpa using h)).2
    simpa using hback

theorem not_has_and_includes {p w a : Text} (hp : isPath p) (hw : Gap w)
    (hhas : text "has" ++ w <+: a) (hincludes : p ++ text ".includes(" <+: a) : False := by
  obtain ⟨c, v, rfl, hc, -⟩ := hw.exists_cons
  have hplain : ∀ d ∈ p ++ text ".includes(", isBlank d = false := by
    intro d hd
    obtain hd | hd := List.mem_append.1 hd
    · exact IsPath.isBlank hp d hd
    · have hcall : (text ".includes(").all (!isBlank ·) = true := by decide
      simpa using List.all_eq_true.1 hcall d hd
  have hword : text "has" ++ [c] <+: a := by
    refine List.IsPrefix.trans ?_ hhas
    exact ⟨v, by simp⟩
  rcases List.prefix_or_prefix_of_prefix hword hincludes with hle | hle
  · have hblank := hplain c (hle.subset (by simp))
    rw [hc] at hblank
    cases hblank
  · have hlength := hle.length_le
    have hcall : (text ".includes(").length = 10 := rfl
    have hhas : (text "has").length = 3 := rfl
    simp only [List.length_append, List.length_singleton] at hlength
    omega

theorem prefix_includes {p v w w' token : Text} : p ++ text ".includes(" <+:
    negation false v (inclusion p w token w') := by
  exact ⟨w ++ token ++ w' ++ [chr ')'], by simp [negation, inclusion]⟩

theorem prefix_has {p w w' token : Text} :
    text "has" ++ w <+: text "has" ++ w ++ p ++ w' ++ token := by
  exact ⟨p ++ w' ++ token, by simp⟩

theorem Term.Written.eq_nil_of_append {token? token?' : Option Text} {z : Text}
    (h : t.Written token? s) (h' : t.Written token?' (s ++ z)) : z = [] := by
  generalize hu : s ++ z = u at h'
  cases h with
  | @truth p w negated hp hw =>
    cases h' with
    | @truth _ w' _ _ hw' =>
      have hback := negation_append_inj (IsPath.tight hp) (IsPath.tight hp) hw hw' hu
      simpa using hback
  | @compare p w v token op l hp hw hv hl _ =>
    cases h' with
    | @compare _ w' v' token' _ _ _ hw' hv' hl' _ =>
      have hop : Tight op.symbol := by cases op <;> decide
      simp only [List.append_assoc, List.append_cancel_left_eq] at hu
      obtain ⟨-, hu⟩ := blanks_append_inj hw hw' hop hop hu
      rw [List.append_cancel_left_eq] at hu
      rw [← List.append_nil token'] at hu
      obtain ⟨-, hu⟩ := blanks_append_inj hv hv' hl.tight hl'.tight hu
      exact hl.append_inj hl' hu
  | @has p w v token l hp hw hv hl _ =>
    cases h' with
    | @has _ w' v' token' _ _ hw' hv' hl' _ =>
      simp only [List.append_assoc, List.append_cancel_left_eq] at hu
      obtain ⟨-, hu⟩ := blanks_append_inj hw.2 hw'.2 (IsPath.tight hp) (IsPath.tight hp) hu
      rw [List.append_cancel_left_eq] at hu
      rw [← List.append_nil token'] at hu
      obtain ⟨-, hu⟩ := blanks_append_inj hv.2 hv'.2 hl.tight hl'.tight hu
      exact hl.append_inj hl' hu
    | @includes _ n w' v' token' =>
      have hincludes := @prefix_includes p n w' v' token'
      rw [← hu] at hincludes
      exact (not_has_and_includes hp hw (prefix_has.trans (List.prefix_append _ z)) hincludes).elim
  | @includes p n w v token l negated hp hn hw hv hl _ =>
    cases h' with
    | @has _ w' v' token' _ _ hw' =>
      have hhas := @prefix_has p w' v' token'
      rw [← hu] at hhas
      exact (not_has_and_includes hp hw' hhas
        (prefix_includes.trans (List.prefix_append _ z))).elim
    | @includes _ n' w' v' token' _ _ _ hn' hw' hv' hl' _ =>
      have hclose : Tight [')'] := by decide
      have hback := negation_append_inj (tight_inclusion hp) (tight_inclusion hp) hn hn' hu
      simp only [inclusion, List.append_assoc, List.append_cancel_left_eq] at hback
      obtain ⟨-, hback⟩ := blanks_append_inj hw hw' hl.tight hl'.tight hback
      have hend := hl.append_inj hl' hback
      obtain ⟨-, hend⟩ := blanks_append_inj (v := []) hv hv' hclose hclose hend
      simpa using hend

theorem Term.blanks_of_read_append {back : Text} (h : Term.read s = .ok t)
    (h' : Term.read (s ++ back) = .ok t) : Blanks back := by
  obtain ⟨token?, hs⟩ := Term.written_of_read h
  obtain ⟨token?', hwhole⟩ := Term.written_of_read h'
  obtain ⟨w, w', hw, hw', hpad⟩ := exists_trim s
  obtain ⟨v, v', hv, hv', hpad'⟩ := exists_trim (s ++ back)
  have heq : w ++ (trim s ++ (w' ++ back)) = v ++ (trim (s ++ back) ++ v') := by
    conv_lhs => rw [← List.append_assoc, ← List.append_assoc, ← hpad]
    rw [← List.append_assoc, ← hpad']
  obtain ⟨-, heq⟩ := blanks_append_inj hw hv (Term.tight_of_read h) (Term.tight_of_read h') heq
  rcases List.append_eq_append_iff.1 heq with ⟨a, ha, hback⟩ | ⟨a, ha, hback⟩
  · rw [ha] at hwhole
    rw [hs.eq_nil_of_append hwhole, List.nil_append] at hback
    rw [← hback] at hv'
    exact (List.forall_mem_append.1 hv').2
  · rw [hback] at hv'
    exact (List.forall_mem_append.1 (List.forall_mem_append.1 hv').2).2

/-! ## Conditions with a combinator between them -/

def Combinator.spaced (op : Combinator) : Text := ' ' :: (op.symbol ++ [chr ' '])

theorem isQuote_of_mem_strayQuotes {q : CodePoint} (h : q ∈ strayQuotes quote s) : isQuote q := by
  induction quote, s using splitTerms_induction with
  | nil quote => cases h
  | inside q' c s ih => exact ih (strayQuotes_inside q' c s ▸ h)
  | quoted c s hc hs ih => exact ih (strayQuotes_quoted hc hs ▸ h)
  | joint op s ih =>
    refine ih ?_
    cases op <;> exact h
  | single c s hquote hjoint ih =>
    rw [strayQuotes_single hquote] at h
    split at h
    · next hc =>
      obtain rfl | h := List.mem_cons.1 h
      · exact hc
      · exact ih h
    · exact ih h

theorem mem_of_mem_spaced_join {op : Combinator} {q : CodePoint} {ss : List Text} (hq : isQuote q)
    (h : q ∈ op.spaced ++ join op.spaced ss) : ∃ s ∈ ss, q ∈ s := by
  have hout : q ∉ op.spaced := by
    intro hm
    have hplain : op.spaced.all (!isQuote ·) = true := by cases op <;> decide
    have hq' := List.all_eq_true.1 hplain q hm
    rw [hq] at hq'
    cases hq'
  have hjoin := (List.mem_append.1 h).resolve_left hout
  exact (mem_join hjoin).resolve_left hout

namespace Condition

section Cuts

variable {op : Combinator} {ts : List Term} {lead tail : Text}

theorem read_lead (hlead : Blanks lead) (u : Text) : Term.read (lead ++ u) = Term.read u := by
  simpa using Term.read_pad hlead blanks_nil (s := u)

/-- A stray quote that meets its like carries the first piece over the combinator, and then no
longer the same term is read. -/
theorem not_cutsInto_of_stray {q : CodePoint} (hlead : Blanks lead) (hrest : rest.head?.any isBlank)
    (hcut : Uncut s) (hread : Term.read s = .ok t) (hq : q ∈ strayQuotes none s)
    (hmeet : q ∈ rest) : ¬CutsInto op (t :: ts) (lead ++ (s ++ rest)) := by
  rintro ⟨-, hall⟩
  have hfront : Passes lead (s ++ rest) := (plain_blanks hlead).passes _
  obtain ⟨back, hback, c, hc, hquote⟩ :=
    first_of_stray hrest (fun q hq => by cases hq) hcut hq hmeet
  rw [hfront, hback] at hall
  have hfirst := (List.forall₂_cons.1 hall).1
  rw [read_lead hlead] at hfirst
  have hblanks := Term.blanks_of_read_append hread hfirst
  rw [isQuote_of_isBlank (hblanks c hc)] at hquote
  cases hquote

theorem splitTerms_spaced (op : Combinator) (tail : Text) :
    splitTerms none (op.spaced ++ tail) =
      ([chr ' '],
        (op, (splitTerms none ([chr ' '] ++ tail)).1) ::
          (splitTerms none ([chr ' '] ++ tail)).2) := by
  have hspace : Plain [' '] := by decide
  have hpasses : Passes [' '] (op.symbol ++ ([chr ' '] ++ tail)) := hspace.passes _
  have htext : op.spaced ++ tail = [chr ' '] ++ (op.symbol ++ ([chr ' '] ++ tail)) := by
    simp [Combinator.spaced]
  rw [htext, hpasses, splitTerms_symbol]
  rfl

theorem cutsInto_cons_iff (hlead : Blanks lead) (hcut : Uncut s) (hread : Term.read s = .ok t)
    (hstray : ∀ q ∈ strayQuotes none s, q ∉ op.spaced ++ tail) :
    CutsInto op (t :: ts) (lead ++ (s ++ (op.spaced ++ tail))) ↔
      CutsInto op ts ([chr ' '] ++ tail) := by
  have hspace : Blanks [' '] := by decide
  have hfront : Passes lead (s ++ (op.spaced ++ tail)) := (plain_blanks hlead).passes _
  have hsplit := @splitTerms_append s (op.spaced ++ tail) none rfl (fun q hq => by cases hq) hcut
    hstray
  have hfirst : Term.read (lead ++ (s ++ [chr ' '])) = .ok t := by
    rw [read_lead hlead]
    simpa [hread] using Term.read_pad blanks_nil hspace (s := s)
  unfold CutsInto
  rw [hfront, hsplit, splitTerms_spaced]
  simp only [List.map_cons, List.forall₂_cons, hfirst, List.forall_mem_cons, true_and]

end Cuts

theorem cutsInto_join_iff {op : Combinator} {ss : List Text} {ts : List Term} {lead : Text}
    (hlead : Blanks lead) (hne : ss ≠ [])
    (h : List.Forall₂ (fun s t => Uncut s ∧ Term.read s = .ok t) ss ts) :
    CutsInto op ts (lead ++ join op.spaced ss) ↔
      ss.Pairwise fun s s' => ∀ q ∈ strayQuotes none s, q ∉ s' := by
  induction h generalizing lead with
  | nil => exact absurd rfl hne
  | @cons s t ss ts hs hss ih =>
    obtain ⟨hcut, hread⟩ := hs
    cases ss with
    | nil =>
      cases hss
      have hpasses : Passes lead s := (plain_blanks hlead).passes s
      rw [Passes, hcut.split] at hpasses
      refine iff_of_true ?_ (List.pairwise_singleton _ _)
      rw [CutsInto, join, hpasses]
      exact ⟨List.forall_mem_nil _, .cons ((read_lead hlead s).trans hread) .nil⟩
    | cons s' ss =>
      have hjoin : join op.spaced (s :: s' :: ss) =
          s ++ (op.spaced ++ join op.spaced (s' :: ss)) := by
        rw [join, List.append_assoc]
        exact List.cons_ne_nil s' ss
      rw [hjoin, List.pairwise_cons]
      by_cases hmeet : ∃ q ∈ strayQuotes none s, q ∈ op.spaced ++ join op.spaced (s' :: ss)
      · obtain ⟨q, hq, hmem⟩ := hmeet
        refine iff_of_false (not_cutsInto_of_stray hlead rfl hcut hread hq hmem) ?_
        rintro ⟨hpairs, -⟩
        obtain ⟨later, hlater, hqlater⟩ :=
          mem_of_mem_spaced_join (isQuote_of_mem_strayQuotes hq) hmem
        exact hpairs later hlater q hq hqlater
      · have hstray : ∀ q ∈ strayQuotes none s, q ∉ op.spaced ++ join op.spaced (s' :: ss) :=
          fun q hq hm => hmeet ⟨q, hq, hm⟩
        rw [cutsInto_cons_iff hlead hcut hread hstray,
          ih (by decide) (List.cons_ne_nil s' ss)]
        refine ⟨fun hpairs => ⟨fun later hlater q hq hm => ?_, hpairs⟩, And.right⟩
        exact hstray q hq (List.mem_append_right _ ((isInfix_join hlater).subset hm))

/-- Conditions of one term, joined by combinators of one kind, are read as their terms in order,
unless a quote that is stray in one of them stands in a later one; then they never are. -/
theorem read_join_iff {op : Combinator} {ss : List Text} {ts : List Term} (hlength : 2 ≤ ss.length)
    (h : List.Forall₂ (fun s t => read s = .ok (.single t)) ss ts) :
    read (join op.spaced ss) = .ok (.joined op ts) ↔
      ss.Pairwise fun s s' => ∀ q ∈ strayQuotes none s, q ∉ s' := by
  have hterms := h.imp fun s t => read_eq_single_iff.1
  have hne : ss ≠ [] := by
    rintro rfl
    simp at hlength
  have hcut : CutsInto op ts (join op.spaced ss) → ¬Uncut (join op.spaced ss) :=
    fun hinto => hinto.not_uncut (h.length_eq ▸ hlength)
  rw [read_eq_joined_iff, and_iff_left_of_imp hcut]
  exact cutsInto_join_iff blanks_nil hne hterms

theorem read_join_iff_quotes :
    let ss := [text "a == \"it's\"", text "b != x'y", text "has c 5\""]
    let ts := [.compare (text "a") .equal ⟨text "it's", true⟩,
      .compare (text "b") .unequal ⟨text "x'y", false⟩,
      .member (text "c") ⟨text "5\"", false⟩ false]
    2 ≤ ss.length ∧ List.Forall₂ (fun s t => read s = .ok (.single t)) ss ts ∧
      read (join (Combinator.spaced .any) ss) = .ok (.joined .any ts) := by
  intro ss ts
  have hread : List.Forall₂ (fun s t => read s = .ok (.single t)) ss ts := by
    refine .cons ?_ (.cons ?_ (.cons ?_ .nil)) <;> decide +kernel
  have hfirst : strayQuotes none (text "a == \"it's\"") = [] := by decide
  have hsecond : strayQuotes none (text "b != x'y") = [chr '\''] := by decide
  have hthird : chr '\'' ∉ text "has c 5\"" := by decide
  have hpairs : ss.Pairwise fun s s' => ∀ q ∈ strayQuotes none s, q ∉ s' := by
    simp [ss, hfirst, hsecond, hthird]
  exact ⟨by decide, hread, (read_join_iff (by decide) hread).2 hpairs⟩

/-- Two apostrophes make one run of what stands between, the combinator with it. -/
theorem read_join_apostrophes :
    read (text "a == it's") = .ok (.single (.compare (text "a") .equal ⟨text "it's", false⟩)) ∧
      read (text "b == it's") =
        .ok (.single (.compare (text "b") .equal ⟨text "it's", false⟩)) ∧
      read (join (Combinator.spaced .all) [text "a == it's", text "b == it's"]) =
        .error ⟨text "a == it's && b == it's", .invalidValue (text "it's && b == it's")⟩ := by
  decide +kernel

end Condition

end Stencil
