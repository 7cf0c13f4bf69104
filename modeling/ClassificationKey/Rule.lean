import ClassificationKey.Number.Decimal
import ClassificationKey.Operator
import ClassificationKey.Pattern.Parser

/-!
# Rules

A rule tests one attribute of a record. A comparison is made between numbers when the attribute and
the literal both write numbers, and between upper-cased texts otherwise; equality of numbers admits a
small relative error. A pattern is searched for in the attribute's text as it stands.
-/

namespace ClassificationKey

/-- What a rule asks of its attribute. The literal of a comparison is trimmed and upper-cased. -/
inductive Criterion where
  | compare (c : Comparison) (literal : String)
  | search (p : Pattern)
  deriving DecidableEq, Repr

/-- A named test of one attribute. -/
structure Rule where
  attributeName : String
  criterion : Criterion
  name : String
  comment : String
  deriving DecidableEq, Repr

namespace Rule

/-- Makes a rule from its parts, which are trimmed. -/
def ofOperator (value attributeName : String) (op : Operator) (name comment : String) :
    Except DefinitionError Rule := do
  let literal := Text.trim value
  let criterion ← match op with
    | .compare c => pure (.compare c (Text.upper literal))
    | .search => match Pattern.parse literal with
      | .ok p => pure (.search p)
      | .error e => .error (.invalidPattern e)
  return ⟨Text.trim attributeName, criterion, Text.trim name, Text.trim comment⟩

/-- Makes a rule, the operator given by its spelling. -/
def make (value attributeName operator name comment : String) : Except DefinitionError Rule := do
  ofOperator value attributeName (← Operator.parse operator) name comment

def operator (r : Rule) : Operator :=
  match r.criterion with
  | .compare c _ => .compare c
  | .search _ => .search

/-- The literal compared with, or the text of the pattern. -/
def value (r : Rule) : String :=
  match r.criterion with
  | .compare _ literal => literal
  | .search p => p.source

def display (r : Rule) : String :=
  r.name ++ " (" ++ r.attributeName ++ " " ++ r.operator.display ++ " \"" ++ r.value ++ "\")"

/-! ### Comparing -/

/-- The relative error that equality of numbers admits. -/
def tolerance : Binary64 := (⟨false, 1, -9⟩ : Number.Decimal).toBinary64

/-- Equal, or no further apart than the tolerance times the larger magnitude. -/
def isClose (a b : Binary64) : Bool :=
  a.eq b || (a.sub b).abs.le ((tolerance.mul (a.abs.max b.abs)).max .zero)

/-- The number that a text writes, if it writes one. -/
def number? (s : String) : Option Binary64 := Number.readBinary64? (Text.trimChars s.toList)

/-- Does one text stand somewhere within the other? -/
def occursWithin (part : List Char) : List Char → Bool
  | [] => part = []
  | c :: cs => part.isPrefixOf (c :: cs) || occursWithin part cs

def compareNumbers : Comparison → Binary64 → Binary64 → Bool
  | .equal, a, b => isClose a b
  | .contains, _, _ => false
  | .atLeast, a, b => b.le a
  | .above, a, b => b.lt a
  | .atMost, a, b => a.le b
  | .below, a, b => a.lt b

def compareTexts : Comparison → String → String → Bool
  | .equal, s, t => s == t
  | .contains, s, t => occursWithin t.toList s.toList
  | .atLeast, s, t => t ≤ s
  | .above, s, t => t < s
  | .atMost, s, t => s ≤ t
  | .below, s, t => s < t

/-- Compares two upper-cased texts, as numbers where both are. Containment is of texts always. -/
def compare (c : Comparison) (value literal : String) : Bool :=
  match c with
  | .contains => compareTexts .contains value literal
  | c => match number? value, number? literal with
    | some a, some b => compareNumbers c a b
    | _, _ => compareTexts c value literal

/-- The test of a rule on the text form of its attribute. -/
def accepts (r : Rule) (text : String) : Bool :=
  let trimmed := Text.trim text
  match r.criterion with
  | .search p => p.occursIn trimmed
  | .compare c literal => compare c (Text.upper trimmed) literal

/-- The test of a rule on a record that has its attribute. -/
def apply (r : Rule) (record : Record) : Except EvalError Bool :=
  match record.get? r.attributeName with
  | some v => .ok (r.accepts v.toText)
  | none => .error (.missingAttribute r.name r.attributeName)

end Rule

end ClassificationKey
