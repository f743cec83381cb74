import Stencil.Text.Digit
import Stencil.Text.Lines
import Stencil.Text.Quoted

/-!
# UTF-8

Texts as bytes and back. Bytes that cannot be part of a character are a fault, and so is half of a
surrogate pair in a text, which no bytes are written for.
-/

namespace Stencil

/-- The content of a file. -/
abbrev Bytes := List UInt8

namespace Utf8

/-! ## Encoding -/

/-- Halves of surrogate pairs in a row, from offset `start` on, the first of which is `first`. -/
structure Halves where
  start : Nat
  size : Nat
  first : CodePoint
  deriving DecidableEq, Repr

/-- The halves as messages show them: a single one as it is, several by their offsets. -/
def Halves.message (h : Halves) : Text :=
  text "'utf-8' codec can't encode " ++
    (if h.size == 1 then
      text "character " ++ Text.quoted [h.first] ++ text " in position " ++ Text.ofNat h.start
    else
      text "characters in position " ++ Text.ofNat h.start ++ text "-" ++
        Text.ofNat (h.start + h.size - 1)) ++
    text ": surrogates not allowed"

/-- The first halves in a text that stands at an offset. -/
def halvesFrom? (offset : Nat) : Text → Option Halves
  | [] => none
  | .chr _ :: s => halvesFrom? (offset + 1) s
  | .lone n :: s => some ⟨offset, (s.takeWhile (·.isLone)).length + 1, .lone n⟩

/-- The bytes of a code point, if it is a character. -/
def ofCodePoint : CodePoint → Bytes
  | .chr c => String.utf8EncodeChar c
  | .lone _ => []

/-- The bytes of the characters in a text. -/
def ofText (s : Text) : Bytes := s.flatMap ofCodePoint

/-- The bytes of a text, which may hold nothing but characters. -/
def encode (s : Text) : Except Halves Bytes :=
  match halvesFrom? 0 s with
  | some halves => .error halves
  | none => .ok (ofText s)

/-! ## Faults -/

inductive Problem where
  | invalidStart
  | invalidContinuation
  | unfinished
  deriving DecidableEq, Repr

/-- `size` bytes from offset `start` on, the first of which is `byte`. -/
structure Fault where
  start : Nat
  size : Nat
  byte : UInt8
  problem : Problem
  deriving DecidableEq, Repr

def Problem.message : Problem → Text
  | invalidStart => text "invalid start byte"
  | invalidContinuation => text "invalid continuation byte"
  | unfinished => text "unexpected end of data"

/-- The fault as messages show it: one byte by its value, several by their offsets. -/
def Fault.message (f : Fault) : Text :=
  text "'utf-8' codec can't decode " ++
    (if f.size == 1 then
      text "byte 0x" ++ Text.hex 2 f.byte.toNat ++ text " in position " ++ Text.ofNat f.start
    else
      text "bytes in position " ++ Text.ofNat f.start ++ text "-" ++
          Text.ofNat (f.start + f.size - 1)) ++
    text ": " ++ f.problem.message

/-! ## Decoding -/

/-- A character that has begun: where, with which byte, how many bytes are there, how many are
still to come, between which bounds the next one lies, and the code so far. -/
structure Begun where
  start : Nat
  byte : UInt8
  seen : Nat
  missing : Nat
  low : Nat
  high : Nat
  code : Nat

/-- What the first byte of a character of several bytes begins. -/
def begin? (start : Nat) (byte : UInt8) : Option Begun :=
  let b := byte.toNat
  if b < 0xC2 then none
  else if b < 0xE0 then some ⟨start, byte, 1, 1, 0x80, 0xBF, b - 0xC0⟩
  else if b == 0xE0 then some ⟨start, byte, 1, 2, 0xA0, 0xBF, 0⟩
  else if b == 0xED then some ⟨start, byte, 1, 2, 0x80, 0x9F, 0xD⟩
  else if b < 0xF0 then some ⟨start, byte, 1, 2, 0x80, 0xBF, b - 0xE0⟩
  else if b == 0xF0 then some ⟨start, byte, 1, 3, 0x90, 0xBF, 0⟩
  else if b < 0xF4 then some ⟨start, byte, 1, 3, 0x80, 0xBF, b - 0xF0⟩
  else if b == 0xF4 then some ⟨start, byte, 1, 3, 0x80, 0x8F, 4⟩
  else none

/-- Decodes bytes that stand at an offset, behind a character that has begun or not. -/
def decodeFrom (offset : Nat) (begun : Option Begun) : Bytes → Except Fault Text
  | [] =>
    match begun with
    | none => .ok []
    | some u => .error ⟨u.start, u.seen, u.byte, .unfinished⟩
  | b :: bytes =>
    match begun with
    | none =>
      if b.toNat < 0x80 then do
        let s ← decodeFrom (offset + 1) none bytes
        return chr (Char.ofNat b.toNat) :: s
      else match begin? offset b with
        | none => .error ⟨offset, 1, b, .invalidStart⟩
        | some u => decodeFrom (offset + 1) (some u) bytes
    | some u =>
      if b.toNat < u.low || u.high < b.toNat then
        .error ⟨u.start, u.seen, u.byte, .invalidContinuation⟩
      else
        let code := 0x40 * u.code + (b.toNat - 0x80)
        if u.missing ≤ 1 then do
          let s ← decodeFrom (offset + 1) none bytes
          return chr (Char.ofNat code) :: s
        else
          decodeFrom (offset + 1)
            (some ⟨u.start, u.byte, u.seen + 1, u.missing - 1, 0x80, 0xBF, code⟩) bytes

def decode (bytes : Bytes) : Except Fault Text := decodeFrom 0 none bytes

/-- The text of bytes, with uniform line ends. -/
def read (bytes : Bytes) : Except Fault Text := return Text.normalizeLineEnds (← decode bytes)

end Utf8

end Stencil
