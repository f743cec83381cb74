import Stencil.Text.LetterCase

/-!
# Words

A name is cut into words at blanks, hyphens and underscores and in front of the humps that capital
letters make. Spaces are put in front of the humps first, in two passes over the text, and then
the words are what stands between separators.
-/

namespace Stencil.Text

/-! ## Humps -/

/-- A place in a text where a space belongs: between `first` and `second`, which the text starts
with. -/
structure Gap (s : Text) where
  first : Text
  second : Text
  rest : Text
  ne_nil : first ≠ []
  eq : first ++ (second ++ rest) = s

namespace Gap

variable {s : Text}

def push (c : CodePoint) (gap : Gap s) : Gap (c :: s) where
  first := c :: gap.first
  second := gap.second
  rest := gap.rest
  ne_nil := List.cons_ne_nil _ _
  eq := congrArg (c :: ·) gap.eq

theorem length_rest_lt (gap : Gap s) : gap.rest.length < s.length := by
  have hfirst := List.length_pos_iff.2 gap.ne_nil
  have hlength := congrArg List.length gap.eq
  simp only [List.length_append] at hlength
  omega

/-- Capitals, as many as there can be, in front of a capital and a small letter. -/
def ofAcronym? : (s : Text) → Option (Gap s)
  | [] => none
  | c :: s =>
    if c.isUpper then
      match ofAcronym? s with
      | some gap => some (gap.push c)
      | none =>
        match s with
        | d :: e :: rest =>
          if d.isUpper && e.isLower then some ⟨[c], [d, e], rest, List.cons_ne_nil _ _, rfl⟩
          else none
        | _ => none
    else none

/-- A small letter or a digit in front of a capital. -/
def ofHump? : (s : Text) → Option (Gap s)
  | c :: d :: rest =>
    if (c.isLower || c.isDigit) && d.isUpper then
      some ⟨[c], [d], rest, List.cons_ne_nil _ _, rfl⟩
    else none
  | _ => none

end Gap

/-- Puts a space into every gap that is found from the left. The search goes on behind the text
around a gap, which takes part in no other. -/
def fillGaps (find? : (s : Text) → Option (Gap s)) : Text → Text
  | [] => []
  | c :: s =>
    match find? (c :: s) with
    | some gap =>
      have := gap.length_rest_lt
      gap.first ++ chr ' ' :: (gap.second ++ fillGaps find? gap.rest)
    | none => c :: fillGaps find? s
termination_by s => s.length
decreasing_by
  · exact this
  · exact Nat.lt_succ_self _

/-! ## Words -/

/-- Puts a character in front of the first piece. -/
def pushPiece (c : CodePoint) : List Text → List Text
  | [] => [[c]]
  | piece :: pieces => (c :: piece) :: pieces

/-- The pieces between runs of separators; the first and the last may be empty. -/
def splitRuns (isSeparator : CodePoint → Bool) : Text → List Text
  | [] => [[]]
  | c :: s =>
    if isSeparator c then [] :: splitRuns isSeparator (s.dropWhile isSeparator)
    else pushPiece c (splitRuns isSeparator s)
termination_by s => s.length
decreasing_by
  · exact Nat.lt_succ_of_le (List.dropWhile_suffix _).length_le
  · exact Nat.lt_succ_self _

def isWordSeparator (c : CodePoint) : Bool := isBlank c || c == '-' || c == '_'

/-- The runs of characters that are no separators. -/
def runs (s : Text) : List Text := (splitRuns isWordSeparator s).filter (!·.isEmpty)

def splitWords (s : Text) : List Text :=
  runs (fillGaps Gap.ofHump? (fillGaps Gap.ofAcronym? s))

/-! ## Joined words -/

/-- Words in lower case, joined by hyphens. -/
def kebab (s : Text) : Text := join ['-'] ((splitWords s).map lower)

/-- Words in lower case, joined by underscores. -/
def snake (s : Text) : Text := join ['_'] ((splitWords s).map lower)

/-- Capitalised words without anything between them. -/
def pascal (s : Text) : Text := (splitWords s).flatMap capitalize

/-- As `pascal`, with the first word in lower case. -/
def camel (s : Text) : Text :=
  match splitWords s with
  | [] => []
  | word :: words => lower word ++ words.flatMap capitalize

/-- Every piece between spaces capitalised. -/
def title (s : Text) : Text := join [' '] ((splitOn ' ' s).map capitalize)

end Stencil.Text
