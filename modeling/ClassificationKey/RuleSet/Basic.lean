import ClassificationKey.Guard.Parser
import ClassificationKey.Rule
import Std.Data.ExtTreeMap

/-!
# Rule sets

The rules of a key by their ids, and the evaluation of guards over them. Operands are evaluated from
the left, and the right operand of `and` and `or` only where the left one does not decide; so a rule
that is absent, or whose attribute is, is an error only when the evaluation reaches it.
-/

namespace ClassificationKey

/-- Rules by id. -/
structure RuleSet where
  rules : Std.ExtTreeMap RuleId Rule

namespace RuleSet

def empty : RuleSet := ⟨∅⟩

def get? (rs : RuleSet) (id : RuleId) : Option Rule := rs.rules[id]?

def contains (rs : RuleSet) (id : RuleId) : Bool := (rs.get? id).isSome

def size (rs : RuleSet) : Nat := rs.rules.size

def isEmpty (rs : RuleSet) : Bool := rs.rules.isEmpty

/-- The rules in ascending order of their ids. -/
def toList (rs : RuleSet) : List (RuleId × Rule) := rs.rules.toList

def display (rs : RuleSet) : String := "RuleSet(" ++ toString rs.size ++ " rules)"

/-- Adds a rule under an id that is not zero and not in use. -/
def add (rs : RuleSet) (id : RuleId) (rule : Rule) : Except DefinitionError RuleSet :=
  if id = 0 then .error (.invalidRuleId (.integer 0))
  else if rs.contains id then .error (.duplicateRule id)
  else .ok ⟨rs.rules.insert id rule⟩

/-- The rule set of numbered rules, added in turn. -/
def ofList (entries : List (RuleId × Rule)) : Except DefinitionError RuleSet :=
  entries.foldlM (fun rs entry => rs.add entry.1 entry.2) empty

/-- The rules that a guard mentions and the set lacks, ascending. -/
def undefinedIn (rs : RuleSet) (g : Guard.Compiled) : List RuleId :=
  g.ruleIds.filter fun id => !rs.contains id

/-! ### Evaluation -/

/-- Evaluates a guard on a record; errors quote `source`. -/
def evalTree (rs : RuleSet) (record : Record) (source : String) : Guard → Except EvalError Bool
  | .rule id =>
    match rs.get? id with
    | some rule => rule.apply record
    | none => .error (.undefinedRule id source)
  | .not g =>
    match rs.evalTree record source g with
    | .error e => .error e
    | .ok b => .ok (!b)
  | .and a b =>
    match rs.evalTree record source a with
    | .error e => .error e
    | .ok false => .ok false
    | .ok true => rs.evalTree record source b
  | .or a b =>
    match rs.evalTree record source a with
    | .error e => .error e
    | .ok true => .ok true
    | .ok false => rs.evalTree record source b

/-- Evaluates a compiled guard on a record. -/
def evaluate (rs : RuleSet) (g : Guard.Compiled) (record : Record) : Except EvalError Bool :=
  rs.evalTree record g.source g.tree

/-- Evaluates a guard that may have failed to compile. -/
def evaluateOutcome (rs : RuleSet) (g : Except SyntaxError Guard.Compiled) (record : Record) :
    Except EvalError Bool :=
  match g with
  | .ok g => rs.evaluate g record
  | .error e => .error (.malformed e)

/-! ### Laws of the look-up -/

@[simp] theorem get?_empty (id : RuleId) : empty.get? id = none := by
  simp [get?, empty]

theorem get?_insert (rs : RuleSet) (id key : RuleId) (rule : Rule) :
    (RuleSet.mk (rs.rules.insert id rule)).get? key =
      if id = key then some rule else rs.get? key := by
  simp [get?, Std.ExtTreeMap.getElem?_insert]

end RuleSet

end ClassificationKey
