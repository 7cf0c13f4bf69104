import ClassificationKey.Error

/-!
# Operators of rules

The tests that a rule may make, and their spellings in a rule table.
-/

namespace ClassificationKey

/-- A comparison of an attribute with a literal. -/
inductive Comparison where
  | equal
  | contains
  | atLeast
  | above
  | atMost
  | below
  deriving DecidableEq, Repr

/-- A comparison, or the search for a pattern. -/
inductive Operator where
  | compare (c : Comparison)
  | search
  deriving DecidableEq, Repr

namespace Operator

/-- The spellings of the operators, in lower case. -/
def spellings : List (String × Operator) :=
  [("=", .compare .equal), ("==", .compare .equal), ("equals", .compare .equal),
    ("equal", .compare .equal), ("in", .compare .contains), (">=", .compare .atLeast),
    ("ge", .compare .atLeast), (">", .compare .above), ("gt", .compare .above),
    ("<=", .compare .atMost), ("le", .compare .atMost), ("<", .compare .below),
    ("lt", .compare .below), ("re", .search), ("regex", .search)]

/-- Reads an operator, ignoring case and outer blanks. Lowering the letters of ASCII is enough: no
other character has a letter of a spelling as its lower case. -/
def parse (s : String) : Except DefinitionError Operator :=
  let trimmed := Text.trim s
  match spellings.lookup trimmed.toLower with
  | some op => .ok op
  | none => .error (.unknownOperator trimmed)

/-- The name of an operator. -/
def display : Operator → String
  | .compare .equal => "equal"
  | .compare .contains => "in"
  | .compare .atLeast => "ge"
  | .compare .above => "gt"
  | .compare .atMost => "le"
  | .compare .below => "lt"
  | .search => "regex"

end Operator

end ClassificationKey
