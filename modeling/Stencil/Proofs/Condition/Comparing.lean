import Stencil.Proofs.Binary64.Order
import Stencil.Proofs.Outcome

/-!
# Comparisons with bare literals

Equality and order look at the same two numbers, so the six comparisons agree with each other: of
two numbers one is less, or they are equal, and what is no number stands in no order.
-/

namespace Stencil

open Numeral Outcome

variable {op : Comparison} {u v w : Option Value} {a b d l body : Text}
  {left right : Option Binary64} {x y : Binary64}

def Literal.compares (l : Literal) (op : Comparison) (v : Option Value) :
    Except ConversionError Bool :=
  match op with
  | .equal => l.equals v
  | .unequal => return !(← l.equals v)
  | op => l.ordered op v

theorem Term.holds_compare (c : Scope) (path : Text) (op : Comparison) (l : Literal) :
    (Term.compare path op l).holds c = c.lookup path >>= l.compares op := by
  cases op <;> rfl

/-! ## Verdicts -/

namespace Comparison

/-- The verdict on the text of a value and a bare literal, by the numbers that they write. -/
def verdict (op : Comparison) (body l : Text) : Option Binary64 → Option Binary64 → Bool
  | some x, some y => op.holds x y
  | _, _ =>
    match op with
    | equal => body == l
    | unequal => body != l
    | _ => false

/-- Whether exactly one of less, equal and greater holds, and the two weak orders follow. -/
structure IsTrichotomy (verdict : Comparison → Bool) : Prop where
  exactlyOne : [verdict less, verdict equal, verdict greater].count true = 1
  lessOrEqual : verdict lessOrEqual = (verdict less || verdict equal)
  greaterOrEqual : verdict greaterOrEqual = (verdict greater || verdict equal)

variable {r s t : Int × Int}

theorem holds_eq (hx : x.rank? = some r) (hy : y.rank? = some s) (op : Comparison) :
    op.holds x y = decide (op.Orders (toLex r) (toLex s)) :=
  Bool.eq_iff_iff.2 ((holds_iff hx hy).trans decide_eq_true_iff.symm)

theorem isTrichotomy_holds (hx : x.rank? = some r) (hy : y.rank? = some s) :
    IsTrichotomy fun op => op.holds x y := by
  refine ⟨?_, rfl, rfl⟩
  rw [holds_eq hx hy, holds_eq hx hy, holds_eq hx hy]
  unfold Orders
  rcases lt_trichotomy (toLex r) (toLex s) with hlt | heq | hgt
  · simp [hlt, hlt.ne, hlt.not_gt]
  · simp [heq]
  · simp [hgt, hgt.ne', hgt.not_gt]

theorem verdict_unequal (body l : Text) (left right : Option Binary64) :
    verdict unequal body l left right = !verdict equal body l left right := by
  cases left <;> cases right <;> rfl

theorem verdict_of_not_number (h : left = none ∨ right = none) (hequal : op ≠ equal)
    (hunequal : op ≠ unequal) : op.verdict body l left right = false := by
  unfold verdict
  split
  · simp at h
  · split
    · exact absurd rfl hequal
    · exact absurd rfl hunequal
    · rfl

theorem holds_congr {z : Binary64} (hx : x.rank? = some r) (hy : y.rank? = some s)
    (hz : z.rank? = some t) (h : x.same y = true) (op : Comparison) :
    op.holds x z = op.holds y z ∧ op.holds z x = op.holds z y := by
  rw [Binary64.same_iff hx hy] at h
  rw [holds_eq hx hz, holds_eq hy hz, holds_eq hz hx, holds_eq hz hy, h]
  exact ⟨rfl, rfl⟩

end Comparison

/-! ## Conversions -/

theorem Value.number_of_bool {t : Bool} (h : written (some (.bool t)) = .ok body) :
    number body = .ok none := by
  obtain rfl := Except.ok.inj h
  revert t
  decide

theorem Value.ne_bool_of_number (hv : written v = .ok a) (ha : number a = .ok (some x)) :
    ∀ t, v ≠ some (.bool t) := by
  rintro t rfl
  rw [number_of_bool hv] at ha
  cases ha

namespace Literal

theorem ordered_eq (hbody : Value.written v = .ok body) (hleft : number body = .ok left)
    (hright : number l = .ok right) (op : Comparison) :
    ordered ⟨l, false⟩ op v = .ok (left.any fun x => right.any fun y => op.holds x y) := by
  unfold ordered
  split
  · obtain rfl := Except.ok.inj (hleft.symm.trans (Value.number_of_bool hbody))
    rfl
  · simp only [hbody, hleft, hright, bind, Except.bind]
    cases left <;> cases right <;> rfl

theorem equals_eq (hbody : Value.written v = .ok body) (hleft : number body = .ok left)
    (hright : number l = .ok right) :
    equals ⟨l, false⟩ v = .ok (Comparison.verdict .equal body l left right) := by
  simp only [equals, hbody, hleft, hright, bind, Except.bind, Bool.false_eq_true, if_false]
  cases left <;> cases right <;> rfl

theorem compares_eq (hbody : Value.written v = .ok body) (hleft : number body = .ok left)
    (hright : number l = .ok right) (op : Comparison) :
    compares ⟨l, false⟩ op v = .ok (op.verdict body l left right) := by
  have hequals := equals_eq hbody hleft hright
  have hordered := ordered_eq hbody hleft hright op
  cases op with
  | equal => exact hequals
  | unequal =>
    rw [compares, hequals]
    cases left <;> cases right <;> rfl
  | _ =>
    refine hordered.trans ?_
    cases left <;> cases right <;> rfl

theorem ordered_of_ne_bool (hv : ∀ t, v ≠ some (.bool t)) (l : Literal) (op : Comparison) :
    l.ordered op v = Value.written v >>= fun body => number body >>= fun left =>
      number l.text >>= fun right =>
        match left, right with
        | some x, some y => .ok (op.holds x y)
        | _, _ => .ok false := by
  unfold ordered
  split
  · exact absurd rfl (hv _)
  · rfl

/-- All conversions come before the verdict, and they are the same for each comparison. -/
theorem compares_eq_bind (hv : ∀ t, v ≠ some (.bool t)) (l : Text) (op : Comparison) :
    compares ⟨l, false⟩ op v = Value.written v >>= fun body => number body >>= fun left =>
      number l >>= fun right => .ok (op.verdict body l left right) := by
  have hordered := ordered_of_ne_bool hv ⟨l, false⟩
  cases hbody : Value.written v with
  | error e => cases op <;> simp [compares, equals, hordered, hbody, bind, Except.bind]
  | ok body =>
    cases hleft : number body with
    | error e => cases op <;> simp [compares, equals, hordered, hbody, hleft, bind, Except.bind]
    | ok left =>
      cases hright : number l with
      | error e =>
        cases op <;> simp [compares, equals, hordered, hbody, hleft, hright, bind, Except.bind]
      | ok right =>
        simp only [bind, Except.bind, hleft]
        exact compares_eq hbody hleft hright op

end Literal

/-! ## Equal numbers -/

theorem Numeral.beq_of_number (ha : number a = .ok (some x)) (hl : number l = .ok none) :
    (a == l) = false ∧ (l == a) = false := by
  have hne : a ≠ l := by
    rintro rfl
    rw [ha] at hl
    cases hl
  exact ⟨beq_false_of_ne hne, beq_false_of_ne hne.symm⟩

namespace Comparison

theorem verdict_congr_value (ha : number a = .ok (some x)) (hb : number b = .ok (some y))
    (h : x.same y = true) (hl : number l = .ok right) (op : Comparison) :
    op.verdict a l (some x) right = op.verdict b l (some y) right := by
  cases right with
  | some z =>
    obtain ⟨r, hx⟩ := exists_rank? ha
    obtain ⟨s, hy⟩ := exists_rank? hb
    obtain ⟨t, hz⟩ := exists_rank? hl
    exact (holds_congr hx hy hz h op).1
  | none =>
    have hal := (beq_of_number ha hl).1
    have hbl := (beq_of_number hb hl).1
    cases op <;> simp [verdict, bne, hal, hbl]

theorem verdict_congr_literal (ha : number a = .ok (some x)) (hb : number b = .ok (some y))
    (h : x.same y = true) (hbody : number body = .ok left) (op : Comparison) :
    op.verdict body a left (some x) = op.verdict body b left (some y) := by
  cases left with
  | some z =>
    obtain ⟨r, hx⟩ := exists_rank? ha
    obtain ⟨s, hy⟩ := exists_rank? hb
    obtain ⟨t, hz⟩ := exists_rank? hbody
    exact (holds_congr hx hy hz h op).2
  | none =>
    have hal := (beq_of_number ha hbody).2
    have hbl := (beq_of_number hb hbody).2
    cases op <;> simp [verdict, bne, hal, hbl]

end Comparison

namespace Literal

theorem compares_congr_value (hu : Value.written u = .ok a) (hv : Value.written v = .ok b)
    (ha : number a = .ok (some x)) (hb : number b = .ok (some y)) (h : x.same y = true)
    (op : Comparison) (l : Text) : compares ⟨l, false⟩ op u = compares ⟨l, false⟩ op v := by
  rw [compares_eq_bind (Value.ne_bool_of_number hu ha), hu,
    compares_eq_bind (Value.ne_bool_of_number hv hb), hv]
  simp only [bind, Except.bind, ha, hb]
  cases hl : number l with
  | error e => rfl
  | ok right => exact congrArg Except.ok (Comparison.verdict_congr_value ha hb h hl op)

theorem compares_congr_literal (ha : number a = .ok (some x)) (hb : number b = .ok (some y))
    (h : x.same y = true) (op : Comparison) (w : Option Value) :
    compares ⟨a, false⟩ op w = compares ⟨b, false⟩ op w := by
  by_cases hbool : ∃ t, w = some (.bool t)
  · obtain ⟨t, rfl⟩ := hbool
    have hnone := Value.number_of_bool (t := t) rfl
    rw [compares_eq rfl hnone ha, compares_eq rfl hnone hb,
      Comparison.verdict_congr_literal ha hb h hnone]
  · have hw : ∀ t, w ≠ some (.bool t) := fun t ht => hbool ⟨t, ht⟩
    rw [compares_eq_bind hw, compares_eq_bind hw]
    cases hbody : Value.written w with
    | error e => rfl
    | ok body =>
      simp only [bind, Except.bind, ha, hb]
      cases hleft : number body with
      | error e => rfl
      | ok left => exact congrArg Except.ok (Comparison.verdict_congr_literal ha hb h hleft op)

end Literal

/-! ## All six together -/

/-- Bare literals and values are compared consistently. If both write a number, exactly one of less,
equal and greater holds, and the weak orders follow; if not, or for a boolean, no order holds, but
equal or unequal does. Less is transitive on numbers, and equal numbers can stand for each other. -/
theorem comparisons_consistent :
    (∀ (c : Scope) path op l,
      (Term.compare path op l).holds c = c.lookup path >>= Literal.compares l op) ∧
    (∀ v l body left right, Value.written v = .ok body → number body = .ok left →
      number l = .ok right →
      ∃ verdict : Comparison → Bool,
        (∀ op, Literal.compares ⟨l, false⟩ op v = .ok (verdict op)) ∧
        verdict .unequal = !verdict .equal ∧
        ((∀ t, v ≠ some (.bool t)) → left ≠ none → right ≠ none →
          Comparison.IsTrichotomy verdict) ∧
        ((∃ t, v = some (.bool t)) ∨ left = none ∨ right = none →
          ∀ op, op ≠ .equal → op ≠ .unequal → verdict op = false)) ∧
    (∀ u v a b d x y z, Value.written u = .ok a → Value.written v = .ok b →
      number a = .ok (some x) → number b = .ok (some y) → number d = .ok (some z) →
      Literal.compares ⟨b, false⟩ .less u = .ok true →
      Literal.compares ⟨d, false⟩ .less v = .ok true →
      Literal.compares ⟨d, false⟩ .less u = .ok true) ∧
    (∀ u v a b x y, Value.written u = .ok a → Value.written v = .ok b →
      number a = .ok (some x) → number b = .ok (some y) →
      Literal.compares ⟨b, false⟩ .equal u = .ok true →
      ∀ op, (∀ l, Literal.compares ⟨l, false⟩ op u = Literal.compares ⟨l, false⟩ op v) ∧
        ∀ w, Literal.compares ⟨a, false⟩ op w = Literal.compares ⟨b, false⟩ op w) := by
  refine ⟨Term.holds_compare, ?_, ?_, ?_⟩
  · intro v l body left right hbody hleft hright
    refine ⟨fun op => op.verdict body l left right, Literal.compares_eq hbody hleft hright,
      Comparison.verdict_unequal _ _ _ _, ?_, ?_⟩
    · intro _ hl hr
      obtain ⟨x, rfl⟩ := Option.ne_none_iff_exists'.1 hl
      obtain ⟨y, rfl⟩ := Option.ne_none_iff_exists'.1 hr
      obtain ⟨r, hx⟩ := exists_rank? hleft
      obtain ⟨s, hy⟩ := exists_rank? hright
      exact Comparison.isTrichotomy_holds hx hy
    · intro h op
      refine Comparison.verdict_of_not_number ?_
      rcases h with ⟨t, rfl⟩ | hnone
      · exact .inl (Except.ok.inj (hleft.symm.trans (Value.number_of_bool hbody)))
      · exact hnone
  · intro u v a b d x y z hu hv ha hb hd hab hbd
    obtain ⟨r, hx⟩ := exists_rank? ha
    obtain ⟨s, hy⟩ := exists_rank? hb
    obtain ⟨t, hz⟩ := exists_rank? hd
    rw [Literal.compares_eq hu ha hb] at hab
    rw [Literal.compares_eq hv hb hd] at hbd
    rw [Literal.compares_eq hu ha hd]
    have hxy := (Binary64.less_iff hx hy).1 (Except.ok.inj hab)
    have hyz := (Binary64.less_iff hy hz).1 (Except.ok.inj hbd)
    exact congrArg Except.ok ((Binary64.less_iff hx hz).2 (hxy.trans hyz))
  · intro u v a b x y hu hv ha hb hab op
    rw [Literal.compares_eq hu ha hb] at hab
    have hsame : x.same y = true := Except.ok.inj hab
    exact ⟨Literal.compares_congr_value hu hv ha hb hsame op,
      Literal.compares_congr_literal ha hb hsame op⟩

theorem comparisons_consistent_mixed :
    let half : Option Value := some (.str (text " 1.50"))
    let two : Option Value := some (.int 2)
    let yes : Option Value := some (.bool true)
    let same : Option Value := some (.float (.finite false (3 * Nat.pow 2 1073)))
    (∃ verdict : Comparison → Bool,
      (∀ op, Literal.compares ⟨text "2", false⟩ op half = .ok (verdict op)) ∧
      Comparison.IsTrichotomy verdict) ∧
    (∃ verdict : Comparison → Bool,
      (∀ op, Literal.compares ⟨text "true", false⟩ op yes = .ok (verdict op)) ∧
      verdict .equal = true ∧ verdict .greaterOrEqual = false) ∧
    Literal.compares ⟨text "2", false⟩ .less half = .ok true ∧
    Literal.compares ⟨text "2e1", false⟩ .less two = .ok true ∧
    Literal.compares ⟨text "2e1", false⟩ .less half = .ok true ∧
    Literal.compares ⟨text "1.5", false⟩ .equal half = .ok true ∧
    (∀ op l, Literal.compares ⟨l, false⟩ op half = Literal.compares ⟨l, false⟩ op same) ∧
    ∀ op w, Literal.compares ⟨text " 1.50", false⟩ op w =
      Literal.compares ⟨text "1.5", false⟩ op w := by
  intro half two yes same
  obtain ⟨-, hverdicts, hless, hequal⟩ := comparisons_consistent
  have hhalf : Value.written half = .ok (text " 1.50") := by decide +kernel
  have htwo : Value.written two = .ok (text "2") := by decide +kernel
  have hyes : Value.written yes = .ok (text "true") := by decide +kernel
  have hsame : Value.written same = .ok (text "1.5") := by decide +kernel
  have number_half : number (text " 1.50") = .ok (some (.finite false (3 * Nat.pow 2 1073))) := by
    decide +kernel
  have number_same : number (text "1.5") = .ok (some (.finite false (3 * Nat.pow 2 1073))) := by
    decide +kernel
  have number_two : number (text "2") = .ok (some (.finite false (Nat.pow 2 1075))) := by
    decide +kernel
  have number_twenty : number (text "2e1") = .ok (some (.finite false (5 * Nat.pow 2 1076))) := by
    decide +kernel
  have number_yes : number (text "true") = .ok none := by decide +kernel
  have half_two : Literal.compares ⟨text "2", false⟩ .less half = .ok true := by decide +kernel
  have two_twenty : Literal.compares ⟨text "2e1", false⟩ .less two = .ok true := by decide +kernel
  have half_same : Literal.compares ⟨text "1.5", false⟩ .equal half = .ok true := by decide +kernel
  have yes_yes : Literal.compares ⟨text "true", false⟩ .equal yes = .ok true := by decide +kernel
  obtain ⟨numbers, hnumbers, -, htrichotomy, -⟩ :=
    hverdicts half (text "2") _ _ _ hhalf number_half number_two
  obtain ⟨truths, htruths, -, -, hnone⟩ :=
    hverdicts yes (text "true") _ _ _ hyes number_yes number_yes
  have half_twenty := hless half two _ _ (text "2e1") _ _ _ hhalf htwo number_half number_two
    number_twenty half_two two_twenty
  have hcongr := hequal half same _ _ _ _ hhalf hsame number_half number_same half_same
  refine ⟨⟨numbers, hnumbers, htrichotomy ?_ ?_ ?_⟩, ⟨truths, htruths, ?_, ?_⟩, half_two,
    two_twenty, half_twenty, half_same, fun op => (hcongr op).1, fun op => (hcongr op).2⟩
  · intro t ht
    exact Value.noConfusion (Option.some.inj ht)
  · exact Option.some_ne_none _
  · exact Option.some_ne_none _
  · exact Except.ok.inj ((htruths .equal).symm.trans yes_yes)
  · exact hnone (.inl ⟨true, rfl⟩) .greaterOrEqual (by decide) (by decide)

end Stencil
