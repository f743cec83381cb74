import Stencil.Proofs.Condition.Terms
import Stencil.Proofs.Outcome

/-!
# Reading spelled conditions

A condition is cut at the combinators that join its terms and nowhere else, so reading undoes
spelling.
-/

namespace Stencil

open Text

/-! ## Text that is not cut -/

/-- Whether a text is passed over in front of another one when terms are split. -/
def Passes (s rest : Text) : Prop :=
  splitTerms none (s ++ rest) =
    (s ++ (splitTerms none rest).1, (splitTerms none rest).2)

theorem passes_nil (rest : Text) : Passes [] rest := rfl

theorem Passes.append {s t rest : Text} (hs : Passes s (t ++ rest)) (ht : Passes t rest) :
    Passes (s ++ t) rest := by
  unfold Passes at *
  rw [List.append_assoc, hs, ht, List.append_assoc]

theorem splitTerms_cons {c : CodePoint} {s : Text} (hc : isQuote c = false)
    (hs : ∀ op : Combinator, c = op.mark → s.head? ≠ some op.mark) :
    splitTerms none (c :: s) = pushFirst c (splitTerms none s) := by
  rw [splitTerms, if_neg (by simp [hc])]
  · rintro s' rfl rfl
    exact hs .all rfl rfl
  · rintro s' rfl rfl
    exact hs .any rfl rfl

theorem splitTerms_symbol (op : Combinator) (s : Text) :
    splitTerms none (op.symbol ++ s) =
      ([], (op, (splitTerms none s).1) :: (splitTerms none s).2) := by
  cases op with
  | all =>
    have hmarks : Combinator.symbol .all ++ s = chr '&' :: '&' :: s := rfl
    rw [hmarks, splitTerms, if_neg (by simp [isQuote])]
  | any =>
    have hmarks : Combinator.symbol .any ++ s = chr '|' :: '|' :: s := rfl
    rw [hmarks, splitTerms, if_neg (by simp [isQuote])]

theorem splitTerms_quoted {q : CodePoint} {s : Text} (hs : q ∉ s) (rest : Text) :
    splitTerms (some q) (s ++ q :: rest) =
      (s ++ q :: (splitTerms none rest).1, (splitTerms none rest).2) := by
  induction s with
  | nil => simp [splitTerms, pushFirst]
  | cons c s ih =>
    rw [List.mem_cons, not_or] at hs
    have hc : (c == q) = false := beq_eq_false_iff_ne.2 (Ne.symm hs.1)
    simp [splitTerms, hc, ih hs.2, pushFirst]

theorem splitTerms_quote {q : CodePoint} {s : Text} (hq : isQuote q) (hs : q ∈ s) :
    splitTerms none (q :: s) = pushFirst q (splitTerms (some q) s) := by
  rw [splitTerms.eq_def]
  simp [hq, hs]

theorem passes_quoted {q : CodePoint} {s : Text} (hq : isQuote q) (hs : q ∉ s) (rest : Text) :
    Passes (q :: (s ++ [q])) rest := by
  have hclosed : q ∈ s ++ q :: rest := by simp
  unfold Passes
  rw [List.cons_append, List.append_assoc, List.singleton_append, splitTerms_quote hq hclosed,
    splitTerms_quoted hs]
  simp [pushFirst]

theorem passes_cons {c : CodePoint} {s rest : Text} (hc : isQuote c = false)
    (hs : ∀ op : Combinator, c = op.mark → (s ++ rest).head? ≠ some op.mark)
    (h : Passes s rest) : Passes (c :: s) rest := by
  unfold Passes at *
  rw [List.cons_append, splitTerms_cons hc hs, h]
  rfl

/-- A quote, or the mark of a combinator. -/
def isJoint (c : CodePoint) : Bool := isQuote c || c == '&' || c == '|'

def Plain (s : Text) : Prop := ∀ c ∈ s, isJoint c = false

instance (s : Text) : Decidable (Plain s) := List.decidableBAll _ s

theorem Plain.append {s t : Text} (hs : Plain s) (ht : Plain t) : Plain (s ++ t) :=
  List.forall_mem_append.2 ⟨hs, ht⟩

theorem ne_mark {c : CodePoint} (h : isJoint c = false) (op : Combinator) : c ≠ op.mark := by
  rintro rfl
  cases op <;> cases h

theorem Plain.passes {s : Text} (h : Plain s) (rest : Text) : Passes s rest := by
  induction s with
  | nil => exact passes_nil rest
  | cons c s ih =>
    obtain ⟨hc, hs⟩ := List.forall_mem_cons.1 h
    have hquote : isQuote c = false := by
      rw [isJoint, Bool.or_assoc, Bool.or_eq_false_iff] at hc
      exact hc.1
    exact passes_cons hquote (fun op hop => absurd hop (ne_mark hc op)) (ih hs)

/-- A bare literal is passed over, unless its end and what follows make a combinator. -/
theorem passes_bare {s rest : Text} (hquote : ∀ c ∈ s, isQuote c = false)
    (hs : ∀ op : Combinator, ¬op.symbol <:+: s)
    (hend : ∀ op : Combinator, s.getLast? = some op.mark → rest.head? ≠ some op.mark) :
    Passes s rest := by
  induction s with
  | nil => exact passes_nil rest
  | cons c s ih =>
    obtain ⟨hc, hlater⟩ := List.forall_mem_cons.1 hquote
    have hinside : ∀ op : Combinator, ¬op.symbol <:+: s := fun op h =>
      hs op (h.trans (List.suffix_cons c s).isInfix)
    cases s with
    | nil => exact passes_cons hc (fun op hop => hend op (by rw [hop]; rfl)) (passes_nil rest)
    | cons d s =>
      refine passes_cons hc (fun op hop => ?_) (ih hlater hinside ?_)
      · rintro ⟨⟩
        have hsymbol : op.symbol = [op.mark, op.mark] := by cases op <;> rfl
        exact hs op ⟨[], s, by simp [hsymbol, hop]⟩
      · intro op hop
        exact hend op (by rwa [List.getLast?_cons_cons])

/-! ## Terms are not cut -/

theorem plain_blanks {w : Text} (h : Blanks w) : Plain w := by
  intro c hc
  have hblank := h c hc
  by_contra hjoint
  simp only [Bool.not_eq_false, isJoint, isQuote, Bool.or_eq_true, beq_iff_eq] at hjoint
  obtain ((rfl | rfl) | rfl) | rfl := hjoint <;> cases hblank

theorem plain_path {p : Text} (h : isPath p) : Plain p := by
  intro c hc
  have hne : ∀ d ∈ marks, (c == d) = false := fun _ => IsPath.beq_mark h hc
  rw [isJoint, isQuote, hne '\'' (by decide), hne '"' (by decide), hne '&' (by decide),
    hne '|' (by decide)]
  rfl

theorem passes_negation {s v rest : Text} (hv : Blanks v) (h : Passes s rest) (negated : Bool) :
    Passes (negation negated v s) rest := by
  cases negated with
  | false => exact h
  | true =>
    have hmark : Plain ['!'] := by decide
    exact ((hmark.append (plain_blanks hv)).passes (s ++ rest)).append h

theorem Literal.Spelled.passes {l : Literal} {s rest : Text} (h : l.Spelled s)
    (hend : ∀ op : Combinator, s.getLast? = some op.mark → rest.head? ≠ some op.mark) :
    Passes s rest := by
  cases h with
  | quoted hq hs _ => exact passes_quoted hq hs rest
  | bare _ hs hsymbol => exact passes_bare (fun c hc => (hs c hc).2) hsymbol hend

theorem Plain.passes_literal {lead s rest : Text} {l : Literal} (h : Plain lead) (hl : l.Spelled s)
    (hend : ∀ op : Combinator, (lead ++ s).getLast? = some op.mark → rest.head? ≠ some op.mark) :
    Passes (lead ++ s) rest := by
  refine (h.passes (s ++ rest)).append (hl.passes fun op hop => hend op ?_)
  rw [List.getLast?_append, hop]
  rfl

theorem Term.Spelled.passes {t : Term} {s rest : Text} (h : t.Spelled s)
    (hend : ∀ op : Combinator, s.getLast? = some op.mark → rest.head? ≠ some op.mark) :
    Passes s rest := by
  cases h with
  | truth hp hw => exact passes_negation hw ((plain_path hp).passes rest) _
  | @compare p w w' s op l hp hword hw hw' hl =>
    have hsymbol : Plain op.symbol := by cases op <;> decide
    have hlead := (((plain_path hp).append (plain_blanks hw.2)).append hsymbol).append
      (plain_blanks hw'.2)
    exact hlead.passes_literal hl hend
  | @has p w w' s l hp hw hw' hl =>
    have hword : Plain (text "has") := by decide
    have hlead := ((hword.append (plain_blanks hw.2)).append (plain_path hp)).append
      (plain_blanks hw'.2)
    exact hlead.passes_literal hl hend
  | @includes p v w w' s l negated hp hv hw hw' hl =>
    have hcall : Plain (text ".includes(") := by decide
    have hclose : Plain [')'] := by decide
    have hlead := ((plain_path hp).append hcall).append (plain_blanks hw)
    have hback := (plain_blanks hw').append hclose
    -- Behind the literal stands a blank or the parenthesis, so no combinator starts there.
    have hliteral : Passes (p ++ text ".includes(" ++ w ++ s) (w' ++ [chr ')'] ++ rest) := by
      refine hlead.passes_literal hl fun op _ => ?_
      obtain ⟨c, back, hcons⟩ : ∃ c back, w' ++ [chr ')'] = c :: back := by
        exact List.exists_cons_of_ne_nil (by simp)
      rw [hcons] at hback ⊢
      have hne := ne_mark (hback c List.mem_cons_self) op
      simpa using hne
    have hwhole := hliteral.append (hback.passes rest)
    apply passes_negation hv
    simpa [inclusion] using hwhole

/-! ## Joined terms -/

theorem Joined.tight {op : Combinator} {ts : List Term} {s : Text} (h : Joined op ts s) :
    Tight s := by
  induction h with
  | one ht => exact ht.tight
  | @more t ts s w w' rest ht _ _ _ _ ih =>
    simpa using ht.tight.append (w ++ op.symbol ++ w') ih

theorem Term.read_pad {w s w' : Text} (hw : Blanks w) (hw' : Blanks w') :
    Term.read (w ++ s ++ w') = Term.read s := by
  rw [Term.read, trim_append_right hw', trim_append_left hw, ← Term.read]

theorem Term.Spelled.split {t : Term} {s : Text} (h : t.Spelled s) :
    splitTerms none s = (s, []) := by
  have hpasses : Passes s [] := h.passes (by simp)
  simpa [Passes, splitTerms] using hpasses

theorem Joined.split {op : Combinator} {ts : List Term} {s : Text} (h : Joined op ts s) :
    ∃ first others, splitTerms none s = (first, others) ∧ (∀ piece ∈ others, piece.1 = op) ∧
      List.Forall₂ (fun piece t => Term.read piece = .ok t) (first :: others.map Prod.snd) ts := by
  have hnone : Blanks [] := by simp [Blanks]
  induction h with
  | @one t s ht => exact ⟨s, [], ht.split, by simp, .cons ht.read .nil⟩
  | @more t ts s w w' rest ht hw hw' hend _ ih =>
    obtain ⟨first, others, hsplit, hops, hread⟩ := ih
    have hpasses : Passes s (w ++ (op.symbol ++ (w' ++ rest))) := by
      refine ht.passes fun op' hlast => ?_
      cases w with
      | nil =>
        -- The combinator follows at once, so the term ends with another mark.
        have hhead : ([] ++ (op.symbol ++ (w' ++ rest))).head? = some op.mark := by
          cases op <;> rfl
        rw [hhead]
        intro hmark
        exact absurd rfl (hend (by rw [hlast, hmark]))
      | cons c w => simpa using ne_mark (plain_blanks hw c List.mem_cons_self) op'
    have hfront := hpasses.append ((plain_blanks hw).passes _)
    have hback : Passes w' rest := (plain_blanks hw').passes rest
    refine ⟨s ++ w, (op, w' ++ first) :: others, ?_, List.forall_mem_cons.2 ⟨rfl, hops⟩, ?_⟩
    · rw [List.append_assoc (s ++ w)]
      unfold Passes at hfront hback
      rw [hfront, splitTerms_symbol, hback, hsplit]
      simp
    · have hfirst : Term.read (s ++ w) = .ok t := by
        simpa [ht.read] using Term.read_pad hnone hw (s := s)
      cases hread with
      | cons hhead htail =>
        have hnext := @Term.read_pad w' first [] hw' hnone
        rw [List.append_nil, hhead] at hnext
        exact .cons hfirst (.cons hnext htail)

theorem Condition.ofPieces_of_split {op : Combinator} {ts : List Term} {first : Text}
    {others : List (Combinator × Text)} (hops : ∀ piece ∈ others, piece.1 = op)
    (hread : List.Forall₂ (fun piece t => Term.read piece = .ok t)
      (first :: others.map Prod.snd) ts) (hts : 2 ≤ ts.length) :
    ofPieces first others = .ok (.joined op ts) := by
  have hmap := Outcome.mapM_eq_ok_iff.2 hread
  cases others with
  | nil =>
    have hlength := hread.length_eq
    simp at hlength
    omega
  | cons piece others =>
    have hsame : (piece :: others).any (·.1 != piece.1) = false := by
      rw [List.any_eq_false]
      intro p hp
      simp [hops p hp, hops piece List.mem_cons_self]
    rw [List.map_cons] at hmap
    rw [← hops piece List.mem_cons_self, ofPieces, if_neg (by simp [hsame]), List.map_cons, hmap]
    rfl

/-- A condition is read as what it says, however it is spelled. -/
theorem Condition.read_spelled {c : Condition} {s : Text} (h : c.Spelled s) : read s = .ok c := by
  cases h with
  | @single t w s w' hw ht hw' =>
    unfold read
    rw [ht.tight.trim_pad hw hw', ht.split]
    simp only [ofPieces, ht.read]
    rfl
  | @joined op ts w s w' hts hw hjoined hw' =>
    obtain ⟨first, others, hsplit, hops, hread⟩ := hjoined.split
    unfold read
    rw [hjoined.tight.trim_pad hw hw', hsplit]
    simp only [ofPieces_of_split hops hread hts]
    rfl

theorem Condition.read_spelled_nested :
    let s := text "has p \"a && b\"&&\n! q.includes( 'x)' )&& a >= .includes(y)==& &&has "
    let c : Condition := .joined .all
      [.member (text "p") ⟨text "a && b", true⟩ false, .member (text "q") ⟨text "x)", true⟩ true,
       .compare (text "a") .greaterOrEqual ⟨text ".includes(y)==&", false⟩,
       .truth (text "has") false]
    c.Spelled s ∧ read s = .ok c := by
  intro s c
  have hnone : Blanks [] := by decide
  have hspace : Blanks [' '] := by decide
  have hgap : Gap [' '] := ⟨by decide, hspace⟩
  have hline : Blanks ['\n'] := by decide
  have hand : Literal.Spelled ⟨text "a && b", true⟩ (text "\"a && b\"") :=
    @Literal.Spelled.quoted '"' (text "a && b") rfl (by decide) (by decide)
  have hclose : Literal.Spelled ⟨text "x)", true⟩ (text "'x)'") :=
    @Literal.Spelled.quoted '\'' (text "x)") rfl (by decide) (by decide)
  have hcall : Literal.Spelled ⟨text ".includes(y)==&", false⟩ (text ".includes(y)==&") :=
    .of_all (by decide) (by decide) (by intro op; cases op <;> decide)
  obtain ⟨hp, hq, ha, hhas⟩ : isPath (text "p") ∧ isPath (text "q") ∧ isPath (text "a") ∧
      isPath (text "has") := by decide +kernel
  have h₁ := Term.Spelled.has hp hgap hgap hand
  have h₂ := @Term.Spelled.includes _ _ _ _ _ _ true hq hspace hspace hspace hclose
  have h₃ := @Term.Spelled.compare _ _ _ _ .greaterOrEqual _ ha (by decide) hgap hgap hcall
  have h₄ := @Term.Spelled.truth _ _ false hhas hnone
  have hjoined := @Joined.more .all _ _ _ _ _ _ h₁ hnone hline (by decide)
    (.more h₂ hnone hspace (by decide) (.more h₃ hspace hnone (by decide) (.one h₄)))
  have h : c.Spelled s := .joined (by decide) hnone hjoined hspace
  exact ⟨h, read_spelled h⟩

/-- A bare literal that ends with the mark of the combinator right behind it: the combinator is
found one character too early. -/
theorem Condition.read_touching :
    Term.Spelled (.compare (text "a") .equal ⟨text "x&", false⟩) (text "a == x&") ∧
      Term.Spelled (.truth (text "b") false) (text "b") ∧
      read (text "a == x&" ++ Combinator.symbol .all ++ text "b") =
        .error ⟨text "a == x&&&b", .invalidPath (text "&b")⟩ := by
  have hgap : Gap [' '] := ⟨by decide, by decide⟩
  have hbare : Literal.Spelled ⟨text "x&", false⟩ (text "x&") :=
    .of_all (by decide) (by decide) (by intro op; cases op <;> decide)
  obtain ⟨ha, hb, hread⟩ : isPath (text "a") ∧ isPath (text "b") ∧
      read (text "a == x&" ++ Combinator.symbol .all ++ text "b") =
        .error ⟨text "a == x&&&b", .invalidPath (text "&b")⟩ := by decide +kernel
  refine ⟨?_, ?_, hread⟩
  · exact @Term.Spelled.compare _ [' '] [' '] _ .equal _ ha (by decide) hgap hgap hbare
  · exact @Term.Spelled.truth _ [] false hb (by decide)

end Stencil
