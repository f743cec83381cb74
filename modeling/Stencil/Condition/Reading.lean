import Stencil.Condition
import Stencil.Text.Word

/-!
# Reading conditions

A condition is cut at its combinators, those inside quotes left out, and each piece is read as a
term. Forms are tried in a fixed order: `has`, then `.includes`, then a comparison, then a path.
-/

namespace Stencil

open Text

/-! ## Paths and literals -/

/-- The two quotes that a literal may stand in. -/
def isQuote (c : CodePoint) : Bool := c == '\'' || c == '"'

def isPathChar (c : CodePoint) : Bool := isWord c || c == '$' || c == '@' || c == '-'

/-- The characters that a path may start with. -/
def isPathStart (c : CodePoint) : Bool := isAsciiLetter c || c == '_' || c == '$' || c == '@'

/-- Segments joined by dots, none of them empty, the first with a proper start. -/
def isPath (path : Text) : Bool :=
  path.head?.any isPathStart &&
    (splitOn '.' path).all fun segment => !segment.isEmpty && segment.all isPathChar

def checkPath (path : Text) : Except ConditionFault Text :=
  if isPath path then .ok path else .error (.invalidPath path)

/-- Takes the quotes off a literal; without quotes it may hold no blank and start with none. -/
def Literal.read (s : Text) : Except ConditionFault Literal :=
  match trim s with
  | [] => .error .missingValue
  | c :: rest =>
    if isQuote c && rest.getLast? == some c then .ok ⟨rest.dropLast, true⟩
    else if (c :: rest).any isBlank || isQuote c then .error (.invalidValue (c :: rest))
    else .ok ⟨c :: rest, false⟩

/-! ## The forms of a term -/

/-- `has path literal`, on one line from the literal on. -/
def takeHas? (term : Text) : Option (Text × Text) := do
  let rest ← after? (text "has") term
  guard (rest.head?.any isBlank)
  let rest := trimStart rest
  let path := rest.takeWhile (!isBlank ·)
  let value := trimStart (rest.dropWhile (!isBlank ·))
  guard (!path.isEmpty && !value.isEmpty && !value.contains '\n')
  return (path, value)

/-- Whether a literal in parentheses can be read: it is not empty and stands on one line. -/
def isArgument (inner : Text) : Bool :=
  if (trim inner).isEmpty then inner.any (· != chr '\n') else !(trim inner).contains '\n'

/-- The first `.includes(` behind a path without blanks that leaves a proper argument. -/
def cutIncludes? (path : Text) : Text → Option (Text × Text)
  | [] => none
  | c :: s =>
    let inner? := (after? (text ".includes(") (c :: s)).filter fun inner =>
      !path.isEmpty && isArgument inner
    match inner? with
    | some inner => some (path, inner)
    | none => if isBlank c then none else cutIncludes? (path ++ [c]) s

/-- `path.includes(literal)`. -/
def takeIncludes? (term : Text) : Option (Text × Text) :=
  if term.getLast? == some (chr ')') then cutIncludes? [] term.dropLast else none

/-- A comparison at the front of the text, the longer symbols first. -/
def takeComparison? (s : Text) : Option (Comparison × Text) :=
  [.equal, .unequal, .greaterOrEqual, .lessOrEqual, .greater, .less].findSome?
    fun (op : Comparison) => (after? op.symbol s).map fun rest => (op, rest)

def isComparisonChar (c : CodePoint) : Bool := c == '=' || c == '!' || c == '<' || c == '>'

/-- `path op literal`, on one line from the literal on. -/
def takeCompared? (term : Text) : Option (Text × Comparison × Text) := do
  let isPathPart (c : CodePoint) := !isBlank c && !isComparisonChar c
  let path := term.takeWhile isPathPart
  guard !path.isEmpty
  let (op, rest) ← takeComparison? (trimStart (term.dropWhile isPathPart))
  let value := trimStart rest
  guard !value.contains '\n'
  return (path, op, value)

/-- Whether the symbol of a comparison stands anywhere in the text. -/
def hasComparison (term : Text) : Bool :=
  has (text "==") term || has (text "!=") term || term.contains '<' || term.contains '>'

namespace Term

/-- A term without the word `has`, behind its negation if it has one. -/
def readPlain (negated : Bool) (term : Text) : Except ConditionFault Term :=
  match takeIncludes? term with
  | some (path, value) => do
    let literal ← Literal.read value
    return .member (← checkPath path) literal negated
  | none =>
    match takeCompared? term with
    | some (path, op, value) =>
      if negated then .error .negatedComparison
      else do
        let literal ← Literal.read value
        return .compare (← checkPath path) op literal
    | none =>
      if hasComparison term then .error .missingVariable
      else do return .truth (← checkPath term) negated

/-- Reads one term; blanks around it do not count. -/
def read (s : Text) : Except ConditionFault Term :=
  let term := trim s
  if term.isEmpty then .error .emptyTerm
  else match takeHas? term with
    | some (path, value) => do
      let literal ← Literal.read value
      return .member (← checkPath path) literal false
    | none =>
      match term with
      | '!' :: rest =>
        if rest.head? == some (chr '=') then readPlain false term
        else if (trim rest).isEmpty then .error .emptyNegation
        else readPlain true (trim rest)
      | _ => readPlain false term

end Term

/-! ## Combinators -/

/-- Puts a character in front of the first piece. -/
def pushFirst (c : CodePoint) (pieces : Text × List (Combinator × Text)) :
    Text × List (Combinator × Text) :=
  (c :: pieces.1, pieces.2)

/-- The first piece, and every further one with the combinator in front of it. A quote opens a
run, which hides combinators, only if it is closed somewhere; `quote` is the one that is open. -/
def splitTerms (quote : Option CodePoint) : Text → Text × List (Combinator × Text)
  | [] => ([], [])
  | c :: s =>
    match quote with
    | some q => pushFirst c (splitTerms (if c == q then none else some q) s)
    | none =>
      if isQuote c && s.contains c then pushFirst c (splitTerms (some c) s)
      else match c, s with
        | '&', '&' :: s =>
          let pieces := splitTerms none s
          ([], (.all, pieces.1) :: pieces.2)
        | '|', '|' :: s =>
          let pieces := splitTerms none s
          ([], (.any, pieces.1) :: pieces.2)
        | c, s => pushFirst c (splitTerms none s)

namespace Condition

def ofPieces (first : Text) (others : List (Combinator × Text)) :
    Except ConditionFault Condition :=
  match others with
  | [] => do return .single (← Term.read first)
  | (combinator, _) :: _ =>
    if others.any (·.1 != combinator) then .error .mixedCombinators
    else do return .joined combinator (← (first :: others.map Prod.snd).mapM Term.read)

/-- Reads a condition. The error keeps the condition as it was given. -/
def read (expression : Text) : Except ConditionError Condition :=
  let pieces := splitTerms none (trim expression)
  (ofPieces pieces.1 pieces.2).mapError fun fault => ⟨expression, fault⟩

end Condition

end Stencil
