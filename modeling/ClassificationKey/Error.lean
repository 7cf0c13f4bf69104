import ClassificationKey.Couplet
import ClassificationKey.Guard.Basic
import ClassificationKey.Record

/-!
# Errors

Four kinds of failure: a text that is no guard, or no pattern, a definition that is refused while a
key is built, a guard that cannot be evaluated on a record, and a record that cannot be classified.
Each has one text, its `message`.
-/

namespace ClassificationKey

/-! ### Texts -/

/-- Why a text was refused. -/
inductive SyntaxFault where
  | empty
  | malformed
  deriving DecidableEq, Repr

/-- A text that is no guard, or no pattern, with the text at fault. -/
structure SyntaxError where
  expression : String
  fault : SyntaxFault
  deriving DecidableEq, Repr

/-- The reason in words. -/
def SyntaxFault.message : SyntaxFault → String
  | .empty => "empty expression"
  | .malformed => "malformed expression"

def SyntaxError.message (e : SyntaxError) : String :=
  "invalid ruleset expression \"" ++ e.expression ++ "\": " ++ e.fault.message

/-! ### Definitions -/

/-- The two tables that define a key. -/
inductive TableName where
  | rule
  | key
  deriving DecidableEq, Repr

def TableName.display : TableName → String
  | .rule => "rule"
  | .key => "key"

/-- Why a rule or a key is refused. -/
inductive DefinitionError where
  /-- An error in one row of a table, counted from zero. -/
  | row (table : TableName) (index : Nat) (content : String) (source : DefinitionError)
  | missingField (field : String)
  | outputTarget
  | unknownOperator (operator : String)
  | invalidPattern (source : SyntaxError)
  | invalidRuleId (value : Value)
  | duplicateRule (id : RuleId)
  | invalidCoupletId (value : Value)
  | undefinedInput (id : CoupletId)
  | conflictingCouplet (id : CoupletId) (first second : CoupletKind)
  | terminalHasBranches (id : CoupletId)
  | cyclicKey (path : List CoupletId)
  | unreachable (id : CoupletId)
  deriving DecidableEq, Repr

/-- Couplets in the order in which they are passed. -/
def joinPath (ids : List CoupletId) : String := " -> ".intercalate (ids.map CoupletId.display)

def DefinitionError.message : DefinitionError → String
  | .row table index content source =>
    table.display ++ " table row " ++ toString index ++ " " ++ content ++ ": " ++ source.message
  | .missingField field => "missing mandatory field '" ++ field ++ "'"
  | .outputTarget => "exactly one of OUTPUT_COUPLET or OUTPUT_CLASS is required"
  | .unknownOperator operator => "unknown operator '" ++ operator ++ "'"
  | .invalidPattern source => "invalid pattern: " ++ source.message
  | .invalidRuleId value => "rule id must be a positive integer, got " ++ value.display
  | .duplicateRule id => "duplicate rule id " ++ toString id.toNat
  | .invalidCoupletId value => "invalid couplet id " ++ value.display
  | .undefinedInput id =>
    "input couplet " ++ id.display ++ " is neither the root nor the output of any row"
  | .conflictingCouplet id first second =>
    "couplet " ++ id.display ++ " is declared as both " ++ first.display ++ " and " ++
      second.display
  | .terminalHasBranches id => "class " ++ id.display ++ " cannot have outgoing rule sets"
  | .cyclicKey path => "cycle in key: " ++ joinPath path
  | .unreachable id => "couplet " ++ id.display ++ " cannot be reached from the root"

/-! ### Evaluation -/

/-- Why a guard has no truth value on a record. -/
inductive EvalError where
  | malformed (source : SyntaxError)
  | undefinedRule (id : RuleId) (expression : String)
  | missingAttribute (rule attributeName : String)
  deriving DecidableEq, Repr

def EvalError.message : EvalError → String
  | .malformed source => source.message
  | .undefinedRule id expression =>
    "undefined rule " ++ toString id.toNat ++ " referenced in \"" ++ expression ++ "\""
  | .missingAttribute rule attributeName =>
    "record has no attribute '" ++ attributeName ++ "' required by rule '" ++ rule ++ "'"

/-! ### Classification -/

/-- What stopped a classification. -/
inductive ClassifyFailure where
  | noMatch
  | ambiguous (couplet : Couplet) (expressions : List String)
  | limit (steps : Nat)
  | eval (source : EvalError)
  deriving DecidableEq, Repr

/-- A record that could not be classified, with the couplets visited, the root first. -/
structure ClassifyError where
  record : Record
  recordId : Option Value
  path : List Couplet
  failure : ClassifyFailure

namespace ClassifyError

/-- The record's id after a blank, if it has one. -/
def idText (e : ClassifyError) : String :=
  match e.recordId with
  | some v => " " ++ v.display
  | none => ""

/-- The couplet where the classification stopped. -/
def lastId (e : ClassifyError) : String :=
  match e.path.getLast? with
  | some c => c.id.display
  | none => ""

def visited (e : ClassifyError) : String :=
  " (visited " ++ joinPath (e.path.map Couplet.id) ++ ")"

def message (e : ClassifyError) : String :=
  match e.failure with
  | .noMatch =>
    "unable to classify record" ++ e.idText ++ ": no rule set matched at couplet " ++ e.lastId ++
      e.visited
  | .ambiguous couplet expressions =>
    "record" ++ e.idText ++ " matches multiple rule sets for couplet " ++ couplet.id.display ++
      " (\"" ++ "\", \"".intercalate expressions ++ "\")"
  | .limit steps =>
    "unable to classify record" ++ e.idText ++ ": no class reached within " ++ toString steps ++
      " steps" ++ e.visited
  | .eval source =>
    "unable to classify record" ++ e.idText ++ " at couplet " ++ e.lastId ++ ": " ++ source.message

end ClassifyError

/-! ### Any of them -/

/-- A failure of whatever kind. -/
inductive KeyError where
  | definition (source : DefinitionError)
  | malformed (source : SyntaxError)
  | eval (source : EvalError)
  | classify (source : ClassifyError)

def KeyError.message : KeyError → String
  | .definition e => e.message
  | .malformed e => e.message
  | .eval e => e.message
  | .classify e => e.message

end ClassificationKey
