import Stencil.Text.Blank

/-!
# Block markers

A template is cut into block markers and the text between them. Nothing is lost: the sources of
the pieces make the template again.
-/

namespace Stencil

/-! ## Braces -/

def isBrace (c : CodePoint) : Bool := c == '{' || c == '}'

def openBraces : Text := ['{', '{']
def closeBraces : Text := ['}', '}']

/-- The text up to the first brace, if two closing ones stand there, and what follows them. -/
def takeClosed? (s : Text) : Option (Text × Text) :=
  match s.dropWhile (!isBrace ·) with
  | '}' :: '}' :: rest => some (s.takeWhile (!isBrace ·), rest)
  | _ => none

theorem eq_append_of_takeClosed? {s inner rest : Text} (h : takeClosed? s = some (inner, rest)) :
    s = inner ++ closeBraces ++ rest := by
  have hs := List.takeWhile_append_dropWhile (p := (!isBrace ·)) (l := s)
  unfold takeClosed? at h
  split at h
  · rename_i r hr
    cases h
    rw [hr] at hs
    simpa [closeBraces] using hs.symm
  · cases h

/-! ## Tags and tokens -/

inductive Tag where
  | when
  | whenNot
  | each
  | region
  deriving DecidableEq, Repr

namespace Tag

def name : Tag → Text
  | when => text "if"
  | whenNot => text "unless"
  | each => text "each"
  | region => text "section"

/-- A tag at the front of the text; no name starts another. -/
def take? (s : Text) : Option (Tag × Text) :=
  [.when, .whenNot, .each, .region].findSome? fun (tag : Tag) =>
    (Text.after? tag.name s).map (tag, ·)

end Tag

/-- A block marker. What stands between the tag and the closing braces is kept as it is. -/
inductive Token where
  | opening (tag : Tag) (inner : Text)
  | closing (tag : Tag) (inner : Text)
  deriving DecidableEq, Repr

namespace Token

/-- The marker as it stands in the template. -/
def source : Token → Text
  | opening tag inner => openBraces ++ [chr '#'] ++ tag.name ++ inner ++ closeBraces
  | closing tag inner => openBraces ++ [chr '/'] ++ tag.name ++ inner ++ closeBraces

/-- What follows the sigil of a marker; behind the tag there is nothing or a blank. -/
def takeInner? (s : Text) : Option (Tag × Text × Text) :=
  match Tag.take? s with
  | none => none
  | some (tag, s) =>
    match takeClosed? s with
    | none => none
    | some (inner, rest) =>
      if inner.head?.all Text.isBlank then some (tag, inner, rest) else none

/-- A block marker at the front of the text. -/
def take? : Text → Option (Token × Text)
  | '{' :: '{' :: '#' :: s => (takeInner? s).map fun (tag, inner, rest) => (opening tag inner, rest)
  | '{' :: '{' :: '/' :: s => (takeInner? s).map fun (tag, inner, rest) => (closing tag inner, rest)
  | _ => none

end Token

/-! ## The source is kept -/

theorem Text.eq_append_of_after? {lead s rest : Text} (h : after? lead s = some rest) :
    s = lead ++ rest := by
  induction lead generalizing s with
  | nil => simpa [after?] using h
  | cons a lead ih =>
    cases s with
    | nil => simp [after?] at h
    | cons c s =>
      by_cases hac : a = c
      · simp [after?, hac] at h ⊢
        exact ih h
      · simp [after?, hac] at h

theorem Tag.eq_append_of_take? {s rest : Text} {tag : Tag} (h : take? s = some (tag, rest)) :
    s = tag.name ++ rest := by
  obtain ⟨t, -, ht⟩ := List.exists_of_findSome?_eq_some h
  obtain ⟨r, hr, he⟩ := Option.map_eq_some_iff.1 ht
  cases he
  exact Text.eq_append_of_after? hr

namespace Token

theorem eq_append_of_takeInner? {s inner rest : Text} {tag : Tag}
    (h : takeInner? s = some (tag, inner, rest)) :
    s = tag.name ++ inner ++ closeBraces ++ rest := by
  unfold takeInner? at h
  split at h
  · cases h
  · rename_i ht
    split at h
    · cases h
    · rename_i hi
      split at h
      · cases h
        rw [Tag.eq_append_of_take? ht, eq_append_of_takeClosed? hi]
        simp
      · cases h

theorem eq_append_of_take? {s rest : Text} {t : Token} (h : take? s = some (t, rest)) :
    s = t.source ++ rest := by
  unfold take? at h
  split at h
  · obtain ⟨⟨tag, inner, r⟩, hr, he⟩ := Option.map_eq_some_iff.1 h
    cases he
    rw [eq_append_of_takeInner? hr]
    simp [source, openBraces]
  · obtain ⟨⟨tag, inner, r⟩, hr, he⟩ := Option.map_eq_some_iff.1 h
    cases he
    rw [eq_append_of_takeInner? hr]
    simp [source, openBraces]
  · cases h

theorem length_lt_of_take? {s rest : Text} {t : Token} (h : take? s = some (t, rest)) :
    rest.length < s.length := by
  rw [eq_append_of_take? h]
  cases t <;> simp [source, openBraces] <;> omega

end Token

/-! ## Pieces -/

inductive Piece where
  | plain (body : Text)
  | marker (token : Token)
  deriving DecidableEq, Repr

namespace Piece

/-- The piece as it stands in the template. -/
def source : Piece → Text
  | plain body => body
  | marker token => token.source

/-- Puts a character in front of the text that the pieces start with. -/
def push (c : CodePoint) : List Piece → List Piece
  | plain body :: pieces => plain (c :: body) :: pieces
  | pieces => plain [c] :: pieces

theorem flatMap_source_push (c : CodePoint) (pieces : List Piece) :
    (push c pieces).flatMap source = c :: pieces.flatMap source := by
  cases pieces with
  | nil => rfl
  | cons p ps => cases p <;> simp [push, source]

/-- The block markers of a template, from the left, and the text between them. -/
def ofText : Text → List Piece
  | [] => []
  | c :: s =>
    match h : Token.take? (c :: s) with
    | some (token, rest) =>
      have := Token.length_lt_of_take? h
      marker token :: ofText rest
    | none => push c (ofText s)
termination_by s => s.length
decreasing_by
  · exact this
  · exact Nat.lt_succ_self _

theorem flatMap_source_ofText (s : Text) : (ofText s).flatMap source = s := by
  fun_induction ofText s with
  | case1 => rfl
  | case2 c s token rest h _ ih =>
    rw [List.flatMap_cons, ih, source, ← Token.eq_append_of_take? h]
  | case3 c s _ ih => rw [flatMap_source_push, ih]

end Piece

end Stencil
