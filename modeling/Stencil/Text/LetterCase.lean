import Stencil.Text.Blank
import Stencil.Text.Ranges
import Stencil.Text.CaseTable

/-!
# Letter case

Full case mapping: one letter may become several, and a sigma at the end of a word has a lower
case of its own.
-/

namespace Stencil.Text

/-- The code point that a run maps `n` to. -/
def caseRun? (runs : List CaseRun) (n : Nat) : Option Nat :=
  (runs.find? fun r => r.first ≤ n && n ≤ r.last && (n - r.first) % r.stride == 0).map
    fun r => ((n : Int) + r.shift).toNat

/-- The case of one character: an expansion, else a run, else the character itself. -/
def caseOf (runs : List CaseRun) (expansions : List (Nat × List Nat)) (c : CodePoint) : Text :=
  match expansions.lookup c.toNat with
  | some codes => codes.map CodePoint.ofNat
  | none => match caseRun? runs c.toNat with
    | some code => [CodePoint.ofNat code]
    | none => [c]

def upperChar (c : CodePoint) : Text := caseOf upperRuns upperExpansions c

/-- One character in lower case; the final sigma is left to `lower`. -/
def lowerChar (c : CodePoint) : Text := caseOf lowerRuns lowerExpansions c

def upper (s : Text) : Text := s.flatMap upperChar

/-- The letter whose lower case depends on its place. -/
def capitalSigma : CodePoint := 'Σ'

/-- Whether the first character that the sigma rule does not look through is a cased letter. -/
def meetsCased (s : Text) : Bool :=
  match s.dropWhile (inRanges caseIgnorableRanges ·.toNat) with
  | [] => false
  | c :: _ => inRanges casedRanges c.toNat

/-- Lower case of the text that stands behind `before`, which is given in reverse. -/
def lowerFrom (before : Text) : Text → Text
  | [] => []
  | c :: s =>
    (if c == capitalSigma then
      [if meetsCased before && !meetsCased s then chr 'ς' else chr 'σ']
    else lowerChar c) ++ lowerFrom (c :: before) s

/-- Lower case; a capital sigma that ends a word becomes the final one. -/
def lower (s : Text) : Text := lowerFrom [] s

/-- The first character in upper case and all others in lower case. -/
def capitalize : Text → Text
  | [] => []
  | c :: s => upperChar c ++ lower s

end Stencil.Text
