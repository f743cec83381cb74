import Stencil.Proofs.Condition.RoundTrip

/-!
# Pieces of a condition

A condition is its pieces with the combinators between them. A quoted run never reaches over a cut,
so no piece is cut again when it stands alone, and blanks around a condition do not matter.
-/

namespace Stencil

open Text

variable {s w : Text} {quote : Option CodePoint}

/-! ## Cutting, character by character -/

theorem splitTerms_inside (q c : CodePoint) (s : Text) :
    splitTerms (some q) (c :: s) =
      pushFirst c (splitTerms (if c == q then none else some q) s) := by
  rw [splitTerms]

theorem splitTerms_single {c : CodePoint} (hquote : isQuote c → c ∉ s)
    (hjoint : ∀ op : Combinator, ¬op.symbol <+: c :: s) :
    splitTerms none (c :: s) = pushFirst c (splitTerms none s) := by
  have hrun : ¬(isQuote c && s.contains c) = true := by simpa using hquote
  rw [splitTerms, if_neg hrun]
  · rintro s' rfl rfl
    exact hjoint .all ⟨s', rfl⟩
  · rintro s' rfl rfl
    exact hjoint .any ⟨s', rfl⟩

/-- The cases of a cut: the end, a character inside a run, a quote that opens one, a combinator,
and any other character. -/
@[elab_as_elim]
theorem splitTerms_induction {motive : Option CodePoint → Text → Prop}
    (nil : ∀ quote, motive quote [])
    (inside : ∀ q c s, motive (if c == q then none else some q) s → motive (some q) (c :: s))
    (quoted : ∀ c s, isQuote c → c ∈ s → motive (some c) s → motive none (c :: s))
    (joint : ∀ (op : Combinator) s, motive none s → motive none (op.symbol ++ s))
    (single : ∀ c s, (isQuote c → c ∉ s) → (∀ op : Combinator, ¬op.symbol <+: c :: s) →
      motive none s → motive none (c :: s))
    (quote : Option CodePoint) (s : Text) : motive quote s := by
  induction quote, s using splitTerms.induct with
  | case1 quote => exact nil quote
  | case2 c s q ih => exact inside q c s ih
  | case3 c s hquote ih =>
    rw [Bool.and_eq_true, List.contains_iff_mem] at hquote
    exact quoted c s hquote.1 hquote.2 ih
  | case4 s _ ih => exact joint .all s ih
  | case5 s _ ih => exact joint .any s ih
  | case6 c s hall hany hquote ih =>
    refine single c s (by simpa using hquote) ?_ ih
    rintro op ⟨rest, hop⟩
    cases op with
    | all =>
      cases hop
      exact hall rest rfl rfl
    | any =>
      cases hop
      exact hany rest rfl rfl

/-! ## The pieces make the condition -/

theorem append_splitTerms (quote : Option CodePoint) (s : Text) :
    (splitTerms quote s).1 ++ ((splitTerms quote s).2.flatMap fun piece =>
      piece.1.symbol ++ piece.2) = s := by
  induction quote, s using splitTerms_induction with
  | nil quote => cases quote <;> rfl
  | inside q c s ih => rw [splitTerms_inside, pushFirst, List.cons_append, ih]
  | quoted c s hc hs ih => rw [splitTerms_quote hc hs, pushFirst, List.cons_append, ih]
  | joint op s ih =>
    rw [splitTerms_symbol, List.nil_append, List.flatMap_cons, List.append_assoc, ih]
  | single c s hquote hjoint ih =>
    rw [splitTerms_single hquote hjoint, pushFirst, List.cons_append, ih]

theorem isPrefix_splitTerms (quote : Option CodePoint) (s : Text) : (splitTerms quote s).1 <+: s :=
  ⟨_, append_splitTerms quote s⟩

theorem isInfix_of_mem_splitTerms {piece : Combinator × Text} (h : piece ∈ (splitTerms quote s).2) :
    piece.2 <:+: s := by
  obtain ⟨front, back, hothers⟩ := List.append_of_mem h
  have hsource := append_splitTerms quote s
  rw [hothers] at hsource
  refine ⟨(splitTerms quote s).1 ++ front.flatMap (fun piece => piece.1.symbol ++ piece.2) ++
    piece.1.symbol, back.flatMap fun piece => piece.1.symbol ++ piece.2, ?_⟩
  simpa using hsource

theorem flatMap_symbol_eq {op : Combinator} {others : List (Combinator × Text)} (first : Text)
    (h : ∀ piece ∈ others, piece.1 = op) :
    first ++ (others.flatMap fun piece => piece.1.symbol ++ piece.2) =
      join op.symbol (first :: others.map Prod.snd) := by
  induction others generalizing first with
  | nil => simp [join]
  | cons piece others ih =>
    obtain ⟨hpiece, hothers⟩ := List.forall_mem_cons.1 h
    rw [List.flatMap_cons, List.append_assoc, ih piece.2 hothers, hpiece, List.map_cons]
    simp [join]

/-! ## Pieces that stand alone -/

def Uncut (s : Text) : Prop := (splitTerms none s).2 = []

theorem Uncut.split (h : Uncut s) : splitTerms none s = (s, []) := by
  have hsource := append_splitTerms none s
  rw [h, List.flatMap_nil, List.append_nil] at hsource
  rw [← h]
  exact Prod.ext hsource rfl

theorem mem_first_of_open {q : CodePoint} (h : q ∈ s) : q ∈ (splitTerms (some q) s).1 := by
  induction s with
  | nil => cases h
  | cons c s ih =>
    rw [splitTerms_inside, pushFirst]
    by_cases hc : q = c
    · exact hc ▸ List.mem_cons_self
    · have hs : q ∈ s := List.mem_of_ne_of_mem hc h
      rw [if_neg (by simpa using Ne.symm hc)]
      exact List.mem_cons_of_mem c (ih hs)

theorem splitTerms_first (quote : Option CodePoint) (s : Text) :
    (splitTerms quote (splitTerms quote s).1).2 = [] := by
  induction quote, s using splitTerms_induction with
  | nil quote => cases quote <;> rfl
  | inside q c s ih => rwa [splitTerms_inside, pushFirst, splitTerms_inside]
  | quoted c s hc hs ih =>
    -- The run is closed inside the piece, so it is opened there again.
    rwa [splitTerms_quote hc hs, pushFirst, splitTerms_quote hc (mem_first_of_open hs)]
  | joint op s _ =>
    rw [splitTerms_symbol]
    rfl
  | single c s hquote hjoint ih =>
    have hcut : (splitTerms none s).1 <+: s := isPrefix_splitTerms none s
    have hlater : isQuote c → c ∉ (splitTerms none s).1 := fun hc hm =>
      hquote hc (hcut.subset hm)
    have hnone : ∀ op : Combinator, ¬op.symbol <+: c :: (splitTerms none s).1 := fun op hop =>
      hjoint op (hop.trans (List.cons_prefix_cons.2 ⟨rfl, hcut⟩))
    rwa [splitTerms_single hquote hjoint, pushFirst, splitTerms_single hlater hnone]

theorem uncut_of_mem_splitTerms {piece : Combinator × Text} (h : piece ∈ (splitTerms quote s).2) :
    Uncut piece.2 := by
  induction quote, s using splitTerms_induction with
  | nil quote => cases quote <;> cases h
  | inside q c s ih =>
    rw [splitTerms_inside] at h
    exact ih h
  | quoted c s hc hs ih =>
    rw [splitTerms_quote hc hs] at h
    exact ih h
  | joint op s ih =>
    rw [splitTerms_symbol] at h
    obtain rfl | h := List.mem_cons.1 h
    · exact splitTerms_first none s
    · exact ih h
  | single c s hquote hjoint ih =>
    rw [splitTerms_single hquote hjoint] at h
    exact ih h

/-! ## Blanks around a condition -/

theorem isQuote_of_isBlank {c : CodePoint} (h : isBlank c) : isQuote c = false := by
  by_contra hquote
  rw [isBlank_of_isQuote (by simpa using hquote)] at h
  cases h

/-- The pieces without the blanks behind them, which the reading of a term does not see. -/
def trimPieces (pieces : Text × List (Combinator × Text)) : Text × List (Combinator × Text) :=
  (trimEnd pieces.1, pieces.2.map fun piece => (piece.1, trimEnd piece.2))

theorem trimEnd_cons_congr {s t : Text} (h : trimEnd s = trimEnd t) (c : CodePoint) :
    trimEnd (c :: s) = trimEnd (c :: t) := by
  obtain ⟨w, hw, hs⟩ := exists_trimEnd s
  obtain ⟨v, hv, ht⟩ := exists_trimEnd t
  rw [hs, ht, ← List.cons_append, ← List.cons_append, trimEnd_append hw, trimEnd_append hv, h]

theorem trimPieces_pushFirst {pieces pieces' : Text × List (Combinator × Text)}
    (h : trimPieces pieces = trimPieces pieces') (c : CodePoint) :
    trimPieces (pushFirst c pieces) = trimPieces (pushFirst c pieces') := by
  obtain ⟨hfirst, hothers⟩ := Prod.ext_iff.1 h
  exact Prod.ext (trimEnd_cons_congr hfirst c) hothers

theorem splitTerms_blanks (quote : Option CodePoint) (hw : Blanks w) :
    splitTerms quote w = (w, []) := by
  induction w generalizing quote with
  | nil => cases quote <;> rfl
  | cons c w ih =>
    obtain ⟨hc, hrest⟩ := List.forall_mem_cons.1 hw
    cases quote with
    | some q => rw [splitTerms_inside, ih _ hrest, pushFirst]
    | none =>
      have hmark := ne_mark (plain_blanks hw c List.mem_cons_self)
      rw [splitTerms_cons (isQuote_of_isBlank hc) fun op hop => absurd hop (hmark op),
        ih _ hrest, pushFirst]

theorem not_symbol_isPrefix {c : CodePoint} (hjoint : ∀ op : Combinator, ¬op.symbol <+: c :: s)
    {rest : Text}
    (hend : ∀ op : Combinator, (c :: s).getLast? = some op.mark → rest.head? ≠ some op.mark) :
    ∀ op : Combinator, ¬op.symbol <+: c :: (s ++ rest) := by
  intro op hop
  have hsymbol : op.symbol = [op.mark, op.mark] := by cases op <;> rfl
  rw [hsymbol, List.cons_prefix_cons] at hop
  cases s with
  | nil =>
    refine hend op (by rw [hop.1]; rfl) ?_
    obtain ⟨back, hback⟩ := hop.2
    rw [List.nil_append] at hback
    rw [← hback]
    rfl
  | cons d s =>
    rw [List.cons_append, List.cons_prefix_cons] at hop
    apply hjoint op
    rw [hsymbol, ← hop.1, ← hop.2.1]
    exact ⟨s, rfl⟩

theorem trimPieces_append (quote : Option CodePoint) (s : Text) (hw : Blanks w) :
    trimPieces (splitTerms quote (s ++ w)) = trimPieces (splitTerms quote s) := by
  induction quote, s using splitTerms_induction with
  | nil quote =>
    have hnone : Blanks [] := by simp [Blanks]
    rw [List.nil_append, splitTerms_blanks quote hw, splitTerms_blanks quote hnone]
    exact Prod.ext ((trimEnd_eq_nil_iff.2 hw).trans (trimEnd_eq_nil_iff.2 hnone).symm) rfl
  | inside q c s ih =>
    rw [List.cons_append, splitTerms_inside, splitTerms_inside]
    exact trimPieces_pushFirst ih c
  | quoted c s hc hs ih =>
    rw [List.cons_append, splitTerms_quote hc (List.mem_append_left w hs), splitTerms_quote hc hs]
    exact trimPieces_pushFirst ih c
  | joint op s ih =>
    obtain ⟨hfirst, hothers⟩ := Prod.ext_iff.1 ih
    rw [List.append_assoc, splitTerms_symbol, splitTerms_symbol]
    refine Prod.ext rfl ?_
    simp only [trimPieces] at hfirst hothers
    simp only [trimPieces, List.map_cons, hfirst, hothers]
  | single c s hquote hjoint ih =>
    have hlater : isQuote c → c ∉ s ++ w := by
      intro hc hm
      obtain hm | hm := List.mem_append.1 hm
      · exact hquote hc hm
      · rw [isQuote_of_isBlank (hw c hm)] at hc
        cases hc
    have hnone : ∀ op : Combinator, ¬op.symbol <+: c :: (s ++ w) :=
      not_symbol_isPrefix hjoint fun op _ hhead =>
        absurd rfl (ne_mark (plain_blanks hw _ (List.mem_of_head? hhead)) op)
    rw [List.cons_append, splitTerms_single hlater hnone, splitTerms_single hquote hjoint]
    exact trimPieces_pushFirst ih c

theorem Term.read_trimEnd (s : Text) : Term.read (trimEnd s) = Term.read s := by
  have hnone : Blanks [] := by simp [Blanks]
  obtain ⟨w, hw, hs⟩ := exists_trimEnd s
  conv_rhs => rw [hs, ← List.nil_append (trimEnd s), Term.read_pad hnone hw]

namespace Condition

def readPieces (s : Text) : Except ConditionFault Condition :=
  ofPieces (splitTerms none s).1 (splitTerms none s).2

theorem ofPieces_trimPieces (pieces : Text × List (Combinator × Text)) :
    ofPieces (trimPieces pieces).1 (trimPieces pieces).2 = ofPieces pieces.1 pieces.2 := by
  obtain ⟨first, others⟩ := pieces
  cases others with
  | nil => simp only [trimPieces, List.map_nil, ofPieces, Term.read_trimEnd]
  | cons piece others =>
    simp only [trimPieces, List.map_cons, ofPieces, List.any_cons, List.any_map, List.map_map,
      List.mapM_cons, List.mapM_map, Function.comp_def, Term.read_trimEnd]

theorem ofPieces_congr {first first' : Text} (h : Term.read first = Term.read first')
    (others : List (Combinator × Text)) : ofPieces first others = ofPieces first' others := by
  cases others with
  | nil => simp only [ofPieces, h]
  | cons piece others => simp only [ofPieces, List.mapM_cons, h]

theorem readPieces_pad {w' : Text} (hw : Blanks w) (hw' : Blanks w') (s : Text) :
    readPieces (w ++ s ++ w') = readPieces s := by
  have hnone : Blanks [] := by simp [Blanks]
  have hfront : Passes w s := (plain_blanks hw).passes s
  have hread : Term.read (w ++ (splitTerms none s).1) = Term.read (splitTerms none s).1 := by
    simpa using Term.read_pad hw hnone (s := (splitTerms none s).1)
  unfold readPieces
  rw [← ofPieces_trimPieces, trimPieces_append none (w ++ s) hw', ofPieces_trimPieces, hfront]
  exact ofPieces_congr hread _

/-- Whether a text is cut at this combinator alone, into pieces that are read as these terms. -/
def CutsInto (op : Combinator) (ts : List Term) (s : Text) : Prop :=
  (∀ piece ∈ (splitTerms none s).2, piece.1 = op) ∧
    List.Forall₂ (fun piece t => Term.read piece = .ok t)
      ((splitTerms none s).1 :: (splitTerms none s).2.map Prod.snd) ts

theorem CutsInto.not_uncut {op : Combinator} {ts : List Term} (h : CutsInto op ts s)
    (hts : 2 ≤ ts.length) : ¬Uncut s := by
  intro hcut
  have hlength := h.2.length_eq
  rw [hcut.split] at hlength
  simp at hlength
  omega

theorem readPieces_eq_single_iff {t : Term} :
    readPieces s = .ok (.single t) ↔ Uncut s ∧ Term.read s = .ok t := by
  constructor
  · intro h
    unfold readPieces ofPieces at h
    split at h
    · next hcut =>
      obtain ⟨t', ht, h⟩ := Outcome.bind_eq_ok_iff.1 h
      cases h
      rw [Uncut.split hcut] at ht
      exact ⟨hcut, ht⟩
    · split at h
      · cases h
      · obtain ⟨ts, -, h⟩ := Outcome.bind_eq_ok_iff.1 h
        cases h
  · rintro ⟨hcut, ht⟩
    rw [readPieces, hcut.split]
    simp only [ofPieces, ht]
    rfl

theorem readPieces_eq_joined_iff {op : Combinator} {ts : List Term} :
    readPieces s = .ok (.joined op ts) ↔ CutsInto op ts s ∧ ¬Uncut s := by
  constructor
  · intro h
    unfold readPieces ofPieces at h
    split at h
    · obtain ⟨t, -, h⟩ := Outcome.bind_eq_ok_iff.1 h
      cases h
    · next hothers =>
      split at h
      · cases h
      · next hsame =>
        obtain ⟨ts', hts, h⟩ := Outcome.bind_eq_ok_iff.1 h
        cases h
        have hops : ∀ piece ∈ (splitTerms none s).2, piece.1 = op := by
          simpa [List.any_eq_false] using hsame
        refine ⟨⟨hops, Outcome.mapM_eq_ok_iff.1 hts⟩, fun hcut => ?_⟩
        rw [Uncut, hothers] at hcut
        cases hcut
  · rintro ⟨⟨hops, hread⟩, hcut⟩
    refine ofPieces_of_split hops hread ?_
    have hlength := hread.length_eq
    have hmore := List.length_pos_iff.2 hcut
    simp at hlength
    omega

theorem read_eq (s : Text) : read s = (readPieces s).mapError fun fault => ⟨s, fault⟩ := by
  obtain ⟨w, w', hw, hw', hs⟩ := exists_trim s
  have hpad := readPieces_pad hw hw' (trim s)
  rw [← hs] at hpad
  rw [hpad]
  rfl

theorem read_eq_single_iff {t : Term} :
    read s = .ok (.single t) ↔ Uncut s ∧ Term.read s = .ok t := by
  rw [read_eq, Outcome.mapError_eq_ok_iff, readPieces_eq_single_iff]

theorem read_eq_joined_iff {op : Combinator} {ts : List Term} :
    read s = .ok (.joined op ts) ↔ CutsInto op ts s ∧ ¬Uncut s := by
  rw [read_eq, Outcome.mapError_eq_ok_iff, readPieces_eq_joined_iff]

/-! ## All terms of a condition -/

def terms : Condition → List Term
  | single t => [t]
  | joined _ ts => ts

def joint : Condition → Text
  | single _ => []
  | joined op _ => op.symbol

theorem exists_pieces {c : Condition} (h : read s = .ok c) :
    ∃ pieces, s = join c.joint pieces ∧
      List.Forall₂ (fun piece t => Term.read piece = .ok t) pieces c.terms := by
  cases c with
  | single t => exact ⟨[s], rfl, .cons (read_eq_single_iff.1 h).2 .nil⟩
  | joined op ts =>
    obtain ⟨⟨hops, hread⟩, -⟩ := read_eq_joined_iff.1 h
    have hsource := append_splitTerms none s
    rw [flatMap_symbol_eq _ hops] at hsource
    exact ⟨_, hsource.symm, hread⟩

end Condition

end Stencil
