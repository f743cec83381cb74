import Stencil.Template.Token
import Stencil.Text.Word

/-!
# Markers inside text

References to variables, and includes, which are recognised but not supported. A reference behind
a dollar sign belongs to another language and is left alone.
-/

namespace Stencil

/-- What a reference asks for: a path, and behind the first bar the name of a transform. -/
structure Reference where
  path : Text
  transform? : Option Text
  deriving DecidableEq, Repr

namespace Reference

/-- The reference that the text between the braces makes. -/
def ofInner (inner : Text) : Reference :=
  match Text.cut? '|' inner with
  | none => ⟨Text.trim inner, none⟩
  | some (path, transform) => ⟨Text.trim path, some (Text.trim transform)⟩

/-- The text between the braces of a marker that stands alone; without them, all of it. -/
def innerOf (marker : Text) : Text :=
  let trimmed := Text.trim marker
  match Text.after? openBraces trimmed, Text.after? closeBraces trimmed.reverse with
  | some _, some _ => (trimmed.drop 2).dropLast.dropLast
  | _, _ => trimmed

def ofMarker (marker : Text) : Reference := ofInner (innerOf marker)

/-- The first characters that make a marker something else than a reference. -/
def isSigil (c : CodePoint) : Bool := c == '#' || c == '/' || c == '>'

/-- The inside of a reference at the front of the text, and what follows the marker. -/
def take? : Text → Option (Text × Text)
  | '{' :: '{' :: s =>
    match takeClosed? s with
    | none => none
    | some (inner, rest) =>
      if (Text.trimStart inner).head?.any (!isSigil ·) then some (inner, rest) else none
  | _ => none

theorem eq_append_of_take? {s inner rest : Text} (h : take? s = some (inner, rest)) :
    s = openBraces ++ inner ++ closeBraces ++ rest := by
  unfold take? at h
  split at h
  · split at h
    · cases h
    · rename_i hi
      split at h
      · cases h
        rw [eq_append_of_takeClosed? hi]
        simp [openBraces]
      · cases h
  · cases h

theorem length_lt_of_take? {s inner rest : Text} (h : take? s = some (inner, rest)) :
    rest.length < s.length := by
  rw [eq_append_of_take? h]
  simp [openBraces]
  omega

end Reference

/-! ## Segments -/

/-- Text that is kept, or a reference by what stands between its braces. -/
inductive Segment where
  | plain (body : Text)
  | reference (inner : Text)
  deriving DecidableEq, Repr

namespace Segment

/-- The segment as it stands in the text. -/
def source : Segment → Text
  | plain body => body
  | reference inner => openBraces ++ inner ++ closeBraces

/-- Puts a character in front of the text that the segments start with. -/
def push (c : CodePoint) : List Segment → List Segment
  | plain body :: segments => plain (c :: body) :: segments
  | segments => plain [c] :: segments

theorem flatMap_source_push (c : CodePoint) (segments : List Segment) :
    (push c segments).flatMap source = c :: segments.flatMap source := by
  cases segments with
  | nil => rfl
  | cons s ss => cases s <;> simp [push, source]

/-- The references of a text that stands behind a dollar sign or not, and the text between. -/
def ofText (dollar : Bool) : Text → List Segment
  | [] => []
  | c :: s =>
    match h : if dollar then none else Reference.take? (c :: s) with
    | some (inner, rest) =>
      have : rest.length < (c :: s).length := by
        cases dollar
        · exact Reference.length_lt_of_take? h
        · cases h
      reference inner :: ofText false rest
    | none => push c (ofText (c == '$') s)
termination_by s => s.length
decreasing_by
  · exact this
  · exact Nat.lt_succ_self _

theorem flatMap_source_ofText (dollar : Bool) (s : Text) :
    (ofText dollar s).flatMap source = s := by
  fun_induction ofText dollar s with
  | case1 => rfl
  | case2 dollar c s inner rest h _ ih =>
    cases dollar
    · rw [List.flatMap_cons, ih, source, ← Reference.eq_append_of_take? h]
    · cases h
  | case3 dollar c s _ ih => rw [flatMap_source_push, ih]

end Segment

/-- The references of a text with their offsets. -/
def references (s : Text) : List (Nat × Text) :=
  collect 0 (Segment.ofText false s)
where
  collect (offset : Nat) : List Segment → List (Nat × Text)
    | [] => []
    | .plain body :: segments => collect (offset + body.length) segments
    | .reference inner :: segments =>
      (offset, inner) ::
        collect (offset + (Segment.reference inner).source.length) segments

/-! ## Includes -/

/-- The name of an include, trimmed; one that is all blank is its last blank. -/
def includeName? (inner : Text) : Option Text :=
  if (Text.trim inner).isEmpty then inner.getLast?.map ([·]) else some (Text.trim inner)

/-- The name of an include at the front of the text. -/
def takeInclude? : Text → Option Text
  | '{' :: '{' :: '>' :: s => (takeClosed? s).bind fun (inner, _) => includeName? inner
  | _ => none

def includes : Text → List Text
  | [] => []
  | c :: s => (takeInclude? (c :: s)).toList ++ includes s

/-! ## Quick check -/

/-- The characters that the quick check takes for the start of a name. -/
def isNameStart (c : CodePoint) : Bool := Text.isWord c || c == '$' || c == '@'

/-- Two opening braces, a sigil or none, blanks, and the start of a name. -/
def startsMarker : Text → Bool
  | '{' :: '{' :: s =>
    let s := if s.head?.any Reference.isSigil then s.drop 1 else s
    (Text.trimStart s).head?.any isNameStart
  | _ => false

/-- Whether the text may hold a marker of any kind. -/
def hasMarker : Text → Bool
  | [] => false
  | c :: s => startsMarker (c :: s) || hasMarker s

end Stencil
