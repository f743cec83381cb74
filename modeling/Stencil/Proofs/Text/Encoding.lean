import Mathlib.Algebra.Ring.Nat
import Stencil.Proofs.Outcome
import Stencil.Text.Utf8

/-!
# The bytes of a text

The bytes that a text is read from are the ones it is written as, and no two texts are written as
the same bytes.
-/

namespace Stencil.Utf8

open Outcome

variable {offset n : Nat} {b : UInt8} {begun : Option Begun} {u : Begun} {bytes front : Bytes}
  {s t : Text}

/-! ## One character -/

/-- The last `m` bytes of the character with the code `n`. -/
def continuation : Nat → Nat → Bytes
  | 0, _ => []
  | m + 1, n => UInt8.ofNat (n / 64 ^ m % 64 + 0x80) :: continuation m n

theorem encodeChar_eq (h : n.isValidChar) :
    String.utf8EncodeChar (Char.ofNat n) =
      if n ≤ 0x7F then [UInt8.ofNat n]
      else if n ≤ 0x7FF then UInt8.ofNat (n / 64 + 0xC0) :: continuation 1 n
      else if n ≤ 0xFFFF then UInt8.ofNat (n / 64 ^ 2 + 0xE0) :: continuation 2 n
      else UInt8.ofNat (n / 64 ^ 3 + 0xF0) :: continuation 3 n := by
  have hval : (Char.ofNat n).val.toNat = n := by
    rw [Char.ofNat, dif_pos h]
    rfl
  have hlt : n < 0x110000 := by
    unfold Nat.isValidChar at h
    omega
  unfold String.utf8EncodeChar
  simp only [hval, continuation]
  split
  · rfl
  · split
    · have hfirst : n / 64 % 32 = n / 64 := by omega
      simp [hfirst]
    · split
      · have hfirst : n / 4096 % 16 = n / 4096 := by omega
        simp [hfirst]
      · have hfirst : n / 262144 % 8 = n / 262144 := by omega
        simp [hfirst]

/-! ## One byte -/

/-- What one byte does: it ends a character, begins or continues one, or is a fault. -/
inductive Step where
  | character (c : Char)
  | begun (u : Begun)
  | fault (fault : Fault)

def step (offset : Nat) (b : UInt8) : Option Begun → Step
  | none =>
    if b.toNat < 0x80 then .character (Char.ofNat b.toNat)
    else match begin? offset b with
      | none => .fault ⟨offset, 1, b, .invalidStart⟩
      | some u => .begun u
  | some u =>
    if b.toNat < u.low || u.high < b.toNat then
      .fault ⟨u.start, u.seen, u.byte, .invalidContinuation⟩
    else if u.missing ≤ 1 then .character (Char.ofNat (0x40 * u.code + (b.toNat - 0x80)))
    else .begun ⟨u.start, u.byte, u.seen + 1, u.missing - 1, 0x80, 0xBF,
      0x40 * u.code + (b.toNat - 0x80)⟩

theorem decodeFrom_cons (b : UInt8) :
    decodeFrom offset begun (b :: bytes) =
      match step offset b begun with
      | .character c => (decodeFrom (offset + 1) none bytes).map (chr c :: ·)
      | .begun u => decodeFrom (offset + 1) (some u) bytes
      | .fault fault => .error fault := by
  cases begun with
  | none =>
    rw [decodeFrom, step]
    split
    · rfl
    · cases begin? offset b <;> rfl
  | some u =>
    rw [decodeFrom, step]
    dsimp only
    split
    · rfl
    · split <;> rfl

/-! ## First bytes -/

/-- What the first byte of several says: how many follow, the front of the code, and bounds for the
next byte that rule out what has a shorter form or is no character. -/
theorem begin?_cases (h : begin? offset b = some u) :
    (u.missing = 1 ∧ (0xC2 ≤ b.toNat ∧ b.toNat < 0xE0) ∧ u.code = b.toNat - 0xC0 ∧
      u.low = 0x80 ∧ u.high = 0xBF) ∨
    (u.missing = 2 ∧ (0xE0 ≤ b.toNat ∧ b.toNat < 0xF0) ∧ u.code = b.toNat - 0xE0 ∧
      u.low = (if b.toNat = 0xE0 then 0xA0 else 0x80) ∧
      u.high = if b.toNat = 0xED then 0x9F else 0xBF) ∨
    (u.missing = 3 ∧ (0xF0 ≤ b.toNat ∧ b.toNat < 0xF5) ∧ u.code = b.toNat - 0xF0 ∧
      u.low = (if b.toNat = 0xF0 then 0x90 else 0x80) ∧
      u.high = if b.toNat = 0xF4 then 0x8F else 0xBF) := by
  unfold begin? at h
  dsimp only at h
  simp only [beq_iff_eq] at h
  repeat' split at h
  all_goals cases h
  all_goals dsimp only
  all_goals grind

/-! ## Unfinished characters -/

/-- The bytes in front of the place where a character goes on are those of every character that it
can still become. -/
structure Begun.Fits (u : Begun) (front : Bytes) : Prop where
  missing_pos : 0 < u.missing
  low_le : 0x80 ≤ u.low
  le_high : u.high ≤ 0xBF
  encodes : ∀ n, n / 64 ^ u.missing = u.code →
    u.low ≤ n / 64 ^ (u.missing - 1) % 64 + 0x80 → n / 64 ^ (u.missing - 1) % 64 + 0x80 ≤ u.high →
      n.isValidChar ∧
        String.utf8EncodeChar (Char.ofNat n) = front ++ continuation u.missing n

theorem fits_of_begin? (h : begin? offset b = some u) : u.Fits [b] := by
  have hfirst : ∀ {m}, m = b.toNat → UInt8.ofNat m = b := by
    rintro _ rfl
    exact UInt8.ofNat_toNat
  rcases begin?_cases h with ⟨hmissing, hb, hcode, hlow, hhigh⟩ |
    ⟨hmissing, hb, hcode, hlow, hhigh⟩ | ⟨hmissing, hb, hcode, hlow, hhigh⟩
  · refine ⟨by omega, by omega, by omega, ?_⟩
    rw [hmissing, hcode, hlow, hhigh]
    intro n hn hl hh
    have hvalid : n.isValidChar := .inl (by omega)
    rw [encodeChar_eq hvalid, if_neg (by omega), if_pos (by omega), hfirst (by omega)]
    exact ⟨hvalid, rfl⟩
  · refine ⟨by omega, by split at hlow <;> omega, by split at hhigh <;> omega, ?_⟩
    rw [hmissing, hcode, hlow, hhigh]
    intro n hn hl hh
    have hvalid : n.isValidChar := by
      unfold Nat.isValidChar
      split at hh <;> omega
    rw [encodeChar_eq hvalid, if_neg, if_neg, if_pos (by omega), hfirst (by omega)]
    · exact ⟨hvalid, rfl⟩
    · split at hl <;> omega
    · split at hl <;> omega
  · refine ⟨by omega, by split at hlow <;> omega, by split at hhigh <;> omega, ?_⟩
    rw [hmissing, hcode, hlow, hhigh]
    intro n hn hl hh
    have hsmall : 0x10000 ≤ n := by split at hl <;> omega
    have hvalid : n.isValidChar := by
      refine .inr ⟨by omega, ?_⟩
      split at hh <;> omega
    rw [encodeChar_eq hvalid, if_neg (by omega), if_neg (by omega), if_neg (by omega),
      hfirst (by omega)]
    exact ⟨hvalid, rfl⟩

/-! ## One byte -/

/-- The bytes that the decoder has read of a character it has not finished. -/
inductive Pending : Option Begun → Bytes → Prop
  | none : Pending none []
  | some {u : Begun} {front : Bytes} : u.Fits front → Pending (some u) front

section Inside

variable (h : u.Fits front) (hin : ¬ (b.toNat < u.low || u.high < b.toNat) = true)

include h hin

theorem Begun.Fits.step_last (hmissing : u.missing = 1) :
    ∃ c, step offset b (some u) = .character c ∧ String.utf8EncodeChar c = front ++ [b] := by
  obtain ⟨-, hlow, hhigh, hencodes⟩ := h
  have hb := b.toNat_lt
  rw [step, if_neg hin, if_pos (Nat.le_of_eq hmissing)]
  refine ⟨_, rfl, ?_⟩
  simp only [Bool.or_eq_true, decide_eq_true_eq, not_or, Nat.not_lt] at hin
  simp only [hmissing, Nat.sub_self, continuation] at hencodes
  generalize hn : 0x40 * u.code + (b.toNat - 0x80) = n
  have hbyte : n / 64 ^ 0 % 64 + 0x80 = b.toNat := by omega
  obtain ⟨-, hchar⟩ := hencodes n (by omega) (by omega) (by omega)
  rw [hchar, hbyte, UInt8.ofNat_toNat]

theorem Begun.Fits.step_next {m : Nat} (hmissing : u.missing = m + 1) (hmore : 0 < m) :
    ∃ v, step offset b (some u) = .begun v ∧ v.Fits (front ++ [b]) := by
  obtain ⟨-, hlow, hhigh, hencodes⟩ := h
  have hb := b.toNat_lt
  rw [step, if_neg hin, if_neg (by omega)]
  simp only [Bool.or_eq_true, decide_eq_true_eq, not_or, Nat.not_lt] at hin
  simp only [hmissing, Nat.add_sub_cancel, continuation] at hencodes ⊢
  refine ⟨_, rfl, hmore, Nat.le_refl _, Nat.le_refl _, ?_⟩
  intro n hn _ _
  dsimp only at hn ⊢
  -- A code that goes on behind this byte is one that goes on in front of it by this byte.
  have hcode : n / 64 ^ (m + 1) = u.code := by
    rw [Nat.pow_succ, ← Nat.div_div_eq_div_mul]
    omega
  have hbyte : n / 64 ^ m % 64 + 0x80 = b.toNat := by omega
  obtain ⟨hvalid, hchar⟩ := hencodes n hcode (by omega) (by omega)
  refine ⟨hvalid, ?_⟩
  rw [hchar, hbyte, UInt8.ofNat_toNat, List.append_assoc]
  rfl

end Inside

/-- A byte that is no fault is one of the character's. -/
theorem step_pending (h : Pending begun front) :
    (∃ c, step offset b begun = .character c ∧ String.utf8EncodeChar c = front ++ [b]) ∨
    (∃ u, step offset b begun = .begun u ∧ u.Fits (front ++ [b])) ∨
    ∃ fault, step offset b begun = .fault fault := by
  cases h with
  | none =>
    rw [step]
    by_cases hascii : b.toNat < 0x80
    · rw [if_pos hascii]
      refine .inl ⟨_, rfl, ?_⟩
      rw [encodeChar_eq (.inl (by omega)), if_pos (by omega), UInt8.ofNat_toNat]
      rfl
    · rw [if_neg hascii]
      cases hu : begin? offset b with
      | none => exact .inr (.inr ⟨_, rfl⟩)
      | some u => exact .inr (.inl ⟨u, rfl, fits_of_begin? hu⟩)
  | @some u front hfits =>
    by_cases hin : (b.toNat < u.low || u.high < b.toNat) = true
    · rw [step, if_pos hin]
      exact .inr (.inr ⟨_, rfl⟩)
    · obtain ⟨m, hmissing⟩ := Nat.exists_eq_add_of_lt hfits.missing_pos
      rw [Nat.zero_add] at hmissing
      rcases Nat.eq_zero_or_pos m with rfl | hmore
      · exact .inl (hfits.step_last hin hmissing)
      · exact .inr (.inl (hfits.step_next hin hmissing hmore))

/-! ## Whole texts -/

theorem ofText_of_decodeFrom (h : Pending begun front)
    (hs : decodeFrom offset begun bytes = .ok s) :
    ofText s = front ++ bytes ∧ ∃ chars : List Char, chars.map chr = s := by
  induction bytes generalizing offset begun front s with
  | nil =>
    cases h with
    | none =>
      obtain rfl := Except.ok.inj hs
      exact ⟨rfl, [], rfl⟩
    | some => cases hs
  | cons b bytes ih =>
    rw [decodeFrom_cons] at hs
    rcases @step_pending offset b begun front h with
      ⟨c, hstep, hc⟩ | ⟨u, hstep, hu⟩ | ⟨fault, hstep⟩
    · rw [hstep] at hs
      obtain ⟨t, ht, rfl⟩ := map_eq_ok_iff.1 hs
      obtain ⟨hrest, chars, rfl⟩ := ih .none ht
      refine ⟨?_, c :: chars, rfl⟩
      rw [List.nil_append] at hrest
      rw [ofText, List.flatMap_cons, ofCodePoint, hc, ← ofText, hrest, List.append_assoc]
      rfl
    · rw [hstep] at hs
      obtain ⟨hrest, hchars⟩ := ih (.some hu) hs
      rw [hrest, List.append_assoc]
      exact ⟨rfl, hchars⟩
    · rw [hstep] at hs
      cases hs

theorem halvesFrom?_map_chr (chars : List Char) : halvesFrom? offset (chars.map chr) = none := by
  induction chars generalizing offset with
  | nil => rfl
  | cons c chars ih => exact ih

theorem encode_map_chr (chars : List Char) :
    encode (chars.map chr) = .ok (ofText (chars.map chr)) := by
  rw [encode, halvesFrom?_map_chr]

theorem encode_of_decode (h : decode bytes = .ok s) : encode s = .ok bytes := by
  obtain ⟨hbytes, chars, rfl⟩ := ofText_of_decodeFrom .none h
  rw [encode_map_chr, hbytes, List.nil_append]

theorem exists_chars (h : halvesFrom? offset s = none) :
    ∃ chars : List Char, chars.map chr = s := by
  induction s generalizing offset with
  | nil => exact ⟨[], rfl⟩
  | cons c s ih =>
    cases c with
    | chr c =>
      obtain ⟨chars, rfl⟩ := ih h
      exact ⟨c :: chars, rfl⟩
    | lone n => cases h

theorem encode_eq_ok_iff :
    encode s = .ok bytes ↔ ∃ chars : List Char, chars.map chr = s ∧ ofText s = bytes := by
  unfold encode
  constructor
  · intro h
    split at h
    · cases h
    · next hnone =>
      obtain ⟨chars, hchars⟩ := exists_chars hnone
      exact ⟨chars, hchars, Except.ok.inj h⟩
  · rintro ⟨chars, rfl, hbytes⟩
    rw [halvesFrom?_map_chr, hbytes]

theorem encode_inj (hs : encode s = .ok bytes) (ht : encode t = .ok bytes) : s = t := by
  obtain ⟨chars, rfl, hs⟩ := encode_eq_ok_iff.1 hs
  obtain ⟨chars', rfl, ht⟩ := encode_eq_ok_iff.1 ht
  have hchars : ∀ l : List Char, ofText (l.map chr) = l.flatMap String.utf8EncodeChar := by
    intro l
    rw [ofText, List.flatMap_map]
    rfl
  rw [← ht, hchars, hchars] at hs
  have hbytes : List.utf8Encode chars = List.utf8Encode chars' := congrArg List.toByteArray hs
  rw [← String.toByteArray_ofList, ← String.toByteArray_ofList, String.toByteArray_inj] at hbytes
  rw [String.ofList_injective hbytes]

end Stencil.Utf8
