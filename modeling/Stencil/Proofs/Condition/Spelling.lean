import Stencil.Condition.Reading
import Stencil.Proofs.Text.Splitting
import Stencil.Proofs.Text.Trimming

/-!
# Spelled conditions

The ways to write a condition: which blanks may stand where, which quotes a literal may stand in,
and the two forms of membership. What is said here is the grammar alone, not how it is read.
-/

namespace Stencil

open Text

/-! ## The grammar -/

def Combinator.mark : Combinator → CodePoint
  | all => '&'
  | any => '|'

/-- A literal in quotes, or a bare one without anything that could end it. -/
inductive Literal.Spelled : Literal → Text → Prop
  | quoted {q : CodePoint} {s : Text} : isQuote q → q ∉ s → chr '\n' ∉ s →
      Spelled ⟨s, true⟩ (q :: (s ++ [q]))
  | bare {s : Text} : s ≠ [] → (∀ c ∈ s, isBlank c = false ∧ isQuote c = false) →
      (∀ op : Combinator, ¬op.symbol <:+: s) → Spelled ⟨s, false⟩ s

theorem Literal.Spelled.of_all {s : Text} (hne : s ≠ [])
    (hs : s.all (fun c => !isBlank c && !isQuote c) = true)
    (hops : ∀ op : Combinator, ¬op.symbol <:+: s) : Literal.Spelled ⟨s, false⟩ s := by
  refine .bare hne (fun c hc => ?_) hops
  simpa using List.all_eq_true.1 hs c hc

def Gap (w : Text) : Prop := w ≠ [] ∧ Blanks w

def negation (negated : Bool) (w s : Text) : Text := if negated then '!' :: (w ++ s) else s

def inclusion (path w s w' : Text) : Text :=
  path ++ text ".includes(" ++ (w ++ s ++ w') ++ [chr ')']

/-- A term without blanks around it. -/
inductive Term.Spelled : Term → Text → Prop
  | truth {p w : Text} {negated : Bool} : isPath p → Blanks w →
      Spelled (.truth p negated) (negation negated w p)
  | compare {p w w' s : Text} {op : Comparison} {l : Literal} : isPath p → p ≠ text "has" →
      Gap w → Gap w' → l.Spelled s → Spelled (.compare p op l) (p ++ w ++ op.symbol ++ w' ++ s)
  | has {p w w' s : Text} {l : Literal} : isPath p → Gap w → Gap w' → l.Spelled s →
      Spelled (.member p l false) (text "has" ++ w ++ p ++ w' ++ s)
  | includes {p v w w' s : Text} {l : Literal} {negated : Bool} : isPath p → Blanks v →
      Blanks w → Blanks w' → l.Spelled s →
      Spelled (.member p l negated) (negation negated v (inclusion p w s w'))

/-- Terms that are joined. A text that ends with the mark of the combinator needs a blank. -/
inductive Joined (op : Combinator) : List Term → Text → Prop
  | one {t : Term} {s : Text} : t.Spelled s → Joined op [t] s
  | more {t : Term} {ts : List Term} {s w w' rest : Text} : t.Spelled s → Blanks w → Blanks w' →
      (s.getLast? = some op.mark → w ≠ []) → Joined op ts rest →
      Joined op (t :: ts) (s ++ w ++ op.symbol ++ (w' ++ rest))

/-- A condition with any blanks around it. -/
inductive Condition.Spelled : Condition → Text → Prop
  | single {t : Term} {w s w' : Text} : Blanks w → t.Spelled s → Blanks w' →
      Spelled (.single t) (w ++ s ++ w')
  | joined {op : Combinator} {ts : List Term} {w s w' : Text} : 2 ≤ ts.length → Blanks w →
      Joined op ts s → Blanks w' → Spelled (.joined op ts) (w ++ s ++ w')

/-! ## The characters of paths -/

theorem inRanges_of_disjoint {rs qs : List (Nat × Nat)} {n : Nat}
    (h : rs.all fun r => qs.all fun q => r.2 < q.1 || q.2 < r.1) (hn : inRanges rs n) :
    inRanges qs n = false := by
  simp only [List.all_eq_true, Bool.or_eq_true, decide_eq_true_eq] at h
  simp only [inRanges, List.any_eq_true, Bool.and_eq_true, decide_eq_true_eq] at hn
  obtain ⟨r, hr, hlow, hhigh⟩ := hn
  simp only [inRanges, List.any_eq_false, Bool.and_eq_true, decide_eq_true_eq]
  intro q hq hin
  have hapart := h r hr q hq
  omega

def blankRanges : List (Nat × Nat) :=
  [(9, 13), (28, 32), (0x85, 0x85), (0xA0, 0xA0), (0x1680, 0x1680), (0x2000, 0x200A),
   (0x2028, 0x2029), (0x202F, 0x202F), (0x205F, 0x205F), (0x3000, 0x3000)]

theorem inRanges_of_isBlank {c : CodePoint} (h : isBlank c) : inRanges blankRanges c.toNat := by
  simp only [isBlank, Bool.or_eq_true, Bool.and_eq_true, decide_eq_true_eq, beq_iff_eq] at h
  simp only [inRanges, blankRanges, List.any_cons, List.any_nil, Bool.or_eq_true,
    Bool.and_eq_true, decide_eq_true_eq, Bool.or_false]
  omega

theorem isPathChar_of_isBlank {c : CodePoint} (h : isBlank c) : isPathChar c = false := by
  have hword : inRanges alphanumericRanges c.toNat = false :=
    inRanges_of_disjoint (by decide +kernel) (inRanges_of_isBlank h)
  have hne : ∀ d : CodePoint, isBlank d = false → (c == d) = false := by
    intro d hd
    rw [beq_eq_false_iff_ne]
    rintro rfl
    rw [h] at hd
    cases hd
  rw [isPathChar, isWord, hword, hne '_' rfl, hne '$' rfl, hne '@' rfl, hne '-' rfl]
  rfl

def isNameChar (c : CodePoint) : Bool := isPathChar c || c == '.'

theorem isBlank_of_isNameChar {c : CodePoint} (h : isNameChar c) : isBlank c = false := by
  by_contra hblank
  rw [Bool.not_eq_false] at hblank
  simp only [isNameChar, isPathChar_of_isBlank hblank, Bool.false_or, beq_iff_eq] at h
  subst h
  cases hblank

def marks : List CodePoint := ['(', ')', '=', '!', '<', '>', '\'', '"', '&', '|']

theorem isNameChar_of_mem_marks {d : CodePoint} (h : d ∈ marks) : isNameChar d = false := by
  have hall : (marks.all (!isNameChar ·)) = true := by decide +kernel
  simpa using List.all_eq_true.1 hall d h

namespace IsPath

variable {p : Text}

theorem isNameChar (h : isPath p) : ∀ c ∈ p, isNameChar c := by
  intro c hc
  rw [isPath, Bool.and_eq_true, List.all_eq_true] at h
  rw [← join_splitOn '.' p] at hc
  rw [Stencil.isNameChar, Bool.or_eq_true, beq_iff_eq]
  obtain hdot | ⟨piece, hpiece, hc⟩ := mem_join hc
  · exact .inr (List.mem_singleton.1 hdot)
  · have hchars := h.2 piece hpiece
    rw [Bool.and_eq_true, List.all_eq_true] at hchars
    exact .inl (hchars.2 c hc)

theorem exists_cons (h : isPath p) : ∃ c s, p = c :: s ∧ isPathStart c := by
  rw [isPath, Bool.and_eq_true] at h
  cases p with
  | nil => cases h.1
  | cons c s => exact ⟨c, s, rfl, h.1⟩

theorem not_mem (h : isPath p) {d : CodePoint} (hd : d ∈ marks) : d ∉ p := by
  intro hm
  have hname := isNameChar h d hm
  rw [isNameChar_of_mem_marks hd] at hname
  cases hname

theorem beq_mark (h : isPath p) {c d : CodePoint} (hc : c ∈ p) (hd : d ∈ marks) :
    (c == d) = false := by
  rw [beq_eq_false_iff_ne]
  rintro rfl
  exact not_mem h hd hc

theorem isBlank (h : isPath p) : ∀ c ∈ p, isBlank c = false :=
  fun c hc => isBlank_of_isNameChar (isNameChar h c hc)

end IsPath

/-! ## The ends of terms -/

theorem IsPath.tight {p : Text} (h : isPath p) : Tight p := by
  obtain ⟨c, s, rfl, -⟩ := exists_cons h
  exact .of_forall (List.cons_ne_nil c s) (IsPath.isBlank h)

theorem isBlank_of_isQuote {c : CodePoint} (h : isQuote c) : isBlank c = false := by
  simp only [isQuote, Bool.or_eq_true, beq_iff_eq] at h
  obtain rfl | rfl := h <;> rfl

theorem Literal.Spelled.tight {l : Literal} {s : Text} (h : l.Spelled s) : Tight s := by
  cases h with
  | @quoted q s hq _ _ =>
    have hend : Tight [q] := .of_forall (List.cons_ne_nil q []) (by simp [isBlank_of_isQuote hq])
    exact hend.append s hend
  | bare hne hs _ => exact .of_forall hne fun c hc => (hs c hc).1

theorem tight_inclusion {p s w w' : Text} (h : isPath p) : Tight (inclusion p w s w') := by
  have hclose : Tight [')'] := by decide
  simpa [inclusion] using (IsPath.tight h).append (text ".includes(" ++ (w ++ s ++ w')) hclose

theorem tight_negation {s w : Text} (h : Tight s) (negated : Bool) :
    Tight (negation negated w s) := by
  cases negated with
  | false => exact h
  | true =>
    have hmark : Tight ['!'] := by decide
    exact hmark.append w h

theorem Term.Spelled.tight {t : Term} {s : Text} (h : t.Spelled s) : Tight s := by
  cases h with
  | truth hp _ => exact tight_negation (IsPath.tight hp) _
  | @compare p w w' s op l hp _ _ _ hl =>
    simpa using (IsPath.tight hp).append (w ++ op.symbol ++ w') hl.tight
  | @has p w w' s l _ _ _ hl =>
    have hword : Tight (text "has") := by decide
    simpa using hword.append (w ++ p ++ w') hl.tight
  | includes hp _ _ _ _ => exact tight_negation (tight_inclusion hp) _

end Stencil
