import Stencil.Text.Lines
import Stencil.Yaml.Fault

/-!
# Reading files in pages

A file is read in pages, each when it is needed, the first two at once. Bytes that are no text are
met only with the part of the file in which they stand, so what is wrong in front of them is
noticed first.
-/

namespace Stencil.Yaml

/-- Whether the format allows a character at all. -/
def isAllowed (c : CodePoint) : Bool :=
  c == '\t' || c == '\n' || c == '\r' || c == '\u0085' ||
    (0x20 ≤ c.toNat && c.toNat ≤ 0x7E) || (0xA0 ≤ c.toNat && c.toNat ≤ 0xD7FF) ||
    (0xE000 ≤ c.toNat && c.toNat ≤ 0xFFFD) ||
    0x10000 ≤ c.toNat

/-- The text of a document as far as it can be read, and why it cannot be read to its end. -/
structure Source where
  content : Text
  cut? : Option Fault

/-- A file that is being read: the bytes that are left, those of an unfinished character, the
characters that wait to be handed out, whether the last one is a carriage return that may belong
to a newline, and how many bytes the last part had for how many characters. -/
structure PageReader where
  bytes : Bytes
  unfinished : Bytes
  waiting : Text
  endsInReturn : Bool
  partBytes : Nat
  partChars : Nat

namespace PageReader

/-- A reader at the start of a file. -/
def start (bytes : Bytes) : PageReader := ⟨bytes, [], [], false, 0, 0⟩

def pageSize : Nat := 4096

/-- How many bytes are read at least. -/
def partSize : Nat := 8192

/-- How many bytes are read for some missing characters, judged by the last part. -/
def sizeFor (missing : Nat) (r : PageReader) : Nat :=
  max partSize
    (if r.partChars < r.partBytes && 0 < r.partChars then missing * r.partBytes / r.partChars
    else missing)

/-- The text of bytes and the unfinished character at their end, which only the end of the file
makes a fault. -/
def decodePart (isLast : Bool) (bytes : Bytes) : Except Utf8.Fault (Text × Bytes) :=
  match Utf8.decode bytes with
  | .ok s => .ok (s, [])
  | .error fault =>
    if isLast || fault.problem != .unfinished then .error fault
    else (Utf8.decode (bytes.take fault.start)).map fun s => (s, bytes.drop fault.start)

/-- Reads the next part of the file, or notices its end. -/
def readPart (missing : Nat) (r : PageReader) : Except Utf8.Fault PageReader := do
  let part := r.bytes.take (r.sizeFor missing)
  let isLast := part.isEmpty
  let (s, unfinished) ← decodePart isLast (r.unfinished ++ part)
  let s := if r.endsInReturn then chr '\r' :: s else s
  let endsInReturn := !isLast && s.getLast? == some (chr '\r')
  let s := Text.normalizeLineEnds (if endsInReturn then s.dropLast else s)
  return ⟨r.bytes.drop part.length, unfinished, r.waiting ++ s, endsInReturn, part.length,
    s.length⟩

/-- Reads parts until a page is there or the file ends. Every round takes a byte. -/
def fill : (rounds : Nat) → PageReader → Except Utf8.Fault PageReader
  | 0, r => .ok r
  | rounds + 1, r =>
    if pageSize ≤ r.waiting.length then .ok r
    else if r.bytes.isEmpty then r.readPart (pageSize - r.waiting.length)
    else do fill rounds (← r.readPart (pageSize - r.waiting.length))

/-- The next page; behind the end of the file it is empty. -/
def page (r : PageReader) : Except Utf8.Fault (Text × PageReader) := do
  let r ← r.fill (r.bytes.length + 1)
  return (r.waiting.take pageSize, { r with waiting := r.waiting.drop pageSize })

/-- The pages that are left, as far as they can be read. -/
def rest : (pages : Nat) → PageReader → Source
  | 0, _ => ⟨[], none⟩
  | pages + 1, r =>
    match r.page with
    | .error fault => ⟨[], some (.undecodable fault)⟩
    | .ok ([], _) => ⟨[], none⟩
    | .ok (s, r) =>
      if s.all isAllowed then
        let source := rest pages r
        { source with content := s ++ source.content }
      else ⟨[], some .malformed⟩

end PageReader

namespace Source

/-- The document that a text is; all of it is at hand. -/
def ofText (s : Text) : Except Fault Source :=
  if s.all isAllowed then .ok ⟨s, none⟩ else .error .malformed

def ofBytes (bytes : Bytes) : Except Fault Source := do
  let (first, r) ← (PageReader.start bytes).page.mapError .undecodable
  let (second, r) ← r.page.mapError .undecodable
  let start := first ++ second
  if !start.all isAllowed then throw .malformed
  let source := r.rest (bytes.length + 1)
  return { source with content := start ++ source.content }

end Source

end Stencil.Yaml
