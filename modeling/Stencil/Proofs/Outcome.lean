import Mathlib.Data.List.Forall2

/-!
# Outcomes

Steps that may fail, taken one after the other, succeed exactly if each of them does.
-/

namespace Stencil.Outcome

variable {ε α β : Type}

theorem bind_eq_ok_iff {x : Except ε α} {f : α → Except ε β} {b : β} :
    (x >>= f) = .ok b ↔ ∃ a, x = .ok a ∧ f a = .ok b := by
  cases x with
  | error e => simp [bind, Except.bind]
  | ok a => simp [bind, Except.bind]

theorem bind_eq_error_iff {x : Except ε α} {f : α → Except ε β} {e : ε} :
    (x >>= f) = .error e ↔ x = .error e ∨ ∃ a, x = .ok a ∧ f a = .error e := by
  cases x with
  | error e' => simp [bind, Except.bind]
  | ok a => simp [bind, Except.bind]

theorem pure_eq_ok_iff {a b : α} : (pure a : Except ε α) = .ok b ↔ a = b := by
  simp [pure, Except.pure]

theorem map_eq_ok_iff {x : Except ε α} {f : α → β} {b : β} :
    x.map f = .ok b ↔ ∃ a, x = .ok a ∧ f a = b := by
  cases x with
  | error e => simp [Except.map]
  | ok a => simp [Except.map]

theorem map_eq_error_iff {x : Except ε α} {f : α → β} {e : ε} :
    x.map f = .error e ↔ x = .error e := by
  cases x with
  | error e' => simp [Except.map]
  | ok a => simp [Except.map]

theorem mapError_eq_ok_iff {ε' : Type} {x : Except ε α} {f : ε → ε'} {a : α} :
    x.mapError f = .ok a ↔ x = .ok a := by
  cases x with
  | error e => simp [Except.mapError]
  | ok a => simp [Except.mapError]

theorem mapError_eq_error_iff {ε' : Type} {x : Except ε α} {f : ε → ε'} {e' : ε'} :
    x.mapError f = .error e' ↔ ∃ e, x = .error e ∧ f e = e' := by
  cases x with
  | error e => simp [Except.mapError]
  | ok a => simp [Except.mapError]

theorem mapM_eq_ok_iff {f : α → Except ε β} {l : List α} {bs : List β} :
    l.mapM f = .ok bs ↔ List.Forall₂ (fun a b => f a = .ok b) l bs := by
  induction l generalizing bs with
  | nil => rw [List.mapM_nil, pure_eq_ok_iff, List.forall₂_nil_left_iff, eq_comm]
  | cons a l ih =>
    simp only [List.mapM_cons, bind_eq_ok_iff, pure_eq_ok_iff, ih, List.forall₂_cons_left_iff]
    constructor
    · rintro ⟨b, hb, bs, hbs, rfl⟩
      exact ⟨b, bs, hb, hbs, rfl⟩
    · rintro ⟨b, bs, hb, hbs, rfl⟩
      exact ⟨b, hb, bs, hbs, rfl⟩

theorem mapM_congr {f g : α → Except ε β} {l : List α} (h : ∀ a ∈ l, f a = g a) :
    l.mapM f = l.mapM g := by
  induction l with
  | nil => rfl
  | cons a l ih =>
    obtain ⟨ha, hl⟩ := List.forall_mem_cons.1 h
    rw [List.mapM_cons, List.mapM_cons, ha, ih hl]

theorem exists_mapM {f : α → Except ε β} {l : List α} (h : ∀ a ∈ l, ∃ b, f a = .ok b) :
    ∃ bs, l.mapM f = .ok bs := by
  simp only [mapM_eq_ok_iff]
  induction l with
  | nil => exact ⟨[], .nil⟩
  | cons a l ih =>
    obtain ⟨⟨b, hb⟩, hl⟩ := List.forall_mem_cons.1 h
    obtain ⟨bs, hbs⟩ := ih hl
    exact ⟨b :: bs, .cons hb hbs⟩

theorem exists_of_mem_mapM {f : α → Except ε β} {l : List α} {bs : List β} {b : β}
    (h : l.mapM f = .ok bs) (hb : b ∈ bs) : ∃ a ∈ l, f a = .ok b := by
  have hall := mapM_eq_ok_iff.1 h
  clear h
  induction hall with
  | nil => cases hb
  | @cons a b' l bs hab _ ih =>
    obtain rfl | hb := List.mem_cons.1 hb
    · exact ⟨a, List.mem_cons_self, hab⟩
    · obtain ⟨a', ha', hab'⟩ := ih hb
      exact ⟨a', List.mem_cons_of_mem a ha', hab'⟩

theorem exists_of_mapM_eq_error {f : α → Except ε β} {l : List α} {e : ε}
    (h : l.mapM f = .error e) : ∃ a ∈ l, f a = .error e := by
  induction l with
  | nil => cases h
  | cons a l ih =>
    rw [List.mapM_cons] at h
    obtain ha | ⟨b, -, h⟩ := bind_eq_error_iff.1 h
    · exact ⟨a, List.mem_cons_self, ha⟩
    · obtain hl | ⟨bs, -, hpure⟩ := bind_eq_error_iff.1 h
      · obtain ⟨a', ha', he⟩ := ih hl
        exact ⟨a', List.mem_cons_of_mem a ha', he⟩
      · cases hpure

theorem exists_anyM {f : α → Except ε Bool} {l : List α} (h : ∀ a ∈ l, ∃ b, f a = .ok b) :
    ∃ b, l.anyM f = .ok b ∧ (b = true ↔ ∃ a ∈ l, f a = .ok true) := by
  induction l with
  | nil => exact ⟨false, rfl, by simp⟩
  | cons a l ih =>
    obtain ⟨⟨b, hb⟩, hl⟩ := List.forall_mem_cons.1 h
    rw [List.anyM_cons, hb]
    cases b with
    | true => exact ⟨true, rfl, by simp [hb]⟩
    | false =>
      obtain ⟨b, hanyM, hiff⟩ := ih hl
      exact ⟨b, hanyM, by simp [hiff, hb]⟩

theorem anyM_map {f : α → Except ε Bool} (g : β → α) (bs : List β) :
    (bs.map g).anyM f = bs.anyM fun b => f (g b) := by
  induction bs with
  | nil => rfl
  | cons b bs ih => rw [List.map_cons, List.anyM_cons, List.anyM_cons, ih]

/-! ## Steps that return -/

/-- The step succeeds, with a result of this kind. -/
def Returns (x : Except ε α) (p : α → Prop) : Prop := ∃ a, x = .ok a ∧ p a

namespace Returns

variable {x : Except ε α} {p p' : α → Prop} {q : β → Prop}

theorem pure {a : α} (h : p a) : Returns (Pure.pure a : Except ε α) p := ⟨a, rfl, h⟩

theorem bind {f : α → Except ε β} (hx : Returns x p) (hf : ∀ a, p a → Returns (f a) q) :
    Returns (x >>= f) q := by
  obtain ⟨a, ha, hp⟩ := hx
  obtain ⟨b, hb, hq⟩ := hf a hp
  exact ⟨b, bind_eq_ok_iff.2 ⟨a, ha, hb⟩, hq⟩

theorem imp (hx : Returns x p) (h : ∀ a, p a → p' a) : Returns x p' := by
  obtain ⟨a, ha, hp⟩ := hx
  exact ⟨a, ha, h a hp⟩

theorem mapM {f : α → Except ε β} {l : List α} (h : ∀ a ∈ l, Returns (f a) q) :
    Returns (l.mapM f) fun bs => ∀ b ∈ bs, q b := by
  have hreturns : ∀ a ∈ l, ∃ b, f a = .ok b := by
    intro a ha
    obtain ⟨b, hb, -⟩ := h a ha
    exact ⟨b, hb⟩
  obtain ⟨bs, hbs⟩ := exists_mapM hreturns
  refine ⟨bs, hbs, fun b hb => ?_⟩
  obtain ⟨a, ha, hab⟩ := exists_of_mem_mapM hbs hb
  obtain ⟨b', hb', hq⟩ := h a ha
  obtain rfl : b' = b := Except.ok.inj (hb'.symm.trans hab)
  exact hq

end Returns

end Stencil.Outcome
