import Stencil.Text.Quoted

/-!
# Conditions

A condition is one term, or several terms joined by only `&&` or only `||`. A term asks whether a
path leads to something true, compares it with a literal, or asks whether it has a literal.
-/

namespace Stencil

/-- What a path is compared with. A quoted literal is never taken for a number. -/
structure Literal where
  text : Text
  quoted : Bool
  deriving DecidableEq, Repr

/-- The ways to compare a value with a literal. -/
inductive Comparison where
  | equal
  | unequal
  | greater
  | greaterOrEqual
  | less
  | lessOrEqual
  deriving DecidableEq, Repr

def Comparison.symbol : Comparison → Text
  | equal => text "=="
  | unequal => text "!="
  | greater => text ">"
  | greaterOrEqual => text ">="
  | less => text "<"
  | lessOrEqual => text "<="

/-- A term: the truth of a path, a comparison, or membership. Only the first and the last can be
negated. -/
inductive Term where
  | truth (path : Text) (negated : Bool)
  | compare (path : Text) (op : Comparison) (literal : Literal)
  | member (path : Text) (literal : Literal) (negated : Bool)
  deriving DecidableEq, Repr

inductive Combinator where
  | all
  | any
  deriving DecidableEq, Repr

def Combinator.symbol : Combinator → Text
  | all => text "&&"
  | any => text "||"

/-- One term, or terms that are all joined in the same way. -/
inductive Condition where
  | single (term : Term)
  | joined (combinator : Combinator) (terms : List Term)
  deriving DecidableEq, Repr

inductive ConditionFault where
  | emptyTerm
  | emptyNegation
  | missingVariable
  | missingValue
  | negatedComparison
  | mixedCombinators
  | invalidPath (path : Text)
  | invalidValue (token : Text)
  deriving DecidableEq, Repr

def ConditionFault.message : ConditionFault → Text
  | emptyTerm => text "Empty condition"
  | emptyNegation => text "Negation without a variable"
  | missingVariable => text "Comparison is missing a variable"
  | missingValue => text "Missing comparison value"
  | negatedComparison => text "Negation cannot be combined with a comparison"
  | mixedCombinators => text "Cannot mix && and || in one condition"
  | invalidPath path => text "Invalid variable path " ++ Text.quoted path
  | invalidValue token => text "Invalid comparison value " ++ token

/-- A fault with the condition that has it. -/
structure ConditionError where
  expression : Text
  fault : ConditionFault
  deriving DecidableEq, Repr

def ConditionError.message (e : ConditionError) : Text :=
  e.fault.message ++ text ": " ++ Text.quoted e.expression

end Stencil
