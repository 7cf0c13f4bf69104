import ClassificationKey.Row
import ClassificationKey.RuleSet.Basic

/-!
# Rule tables

A rule table has the columns `ID`, `ATTRIBUTE`, `OPERATOR`, `VALUE`, `NAME` and, optionally,
`COMMENTS`. Rows are read and added in turn, and the first row at fault is reported.
-/

namespace ClassificationKey

/-- The rule id that a cell writes: its integer form, if positive and of 32 bits. -/
def ruleIdOf (v : Value) : Except DefinitionError RuleId :=
  match v.toInteger? with
  | some i =>
    if 0 < i.toInt && i.toInt < UInt32.size then .ok (UInt32.ofNat i.toInt.toNat)
    else .error (.invalidRuleId v)
  | none => .error (.invalidRuleId v)

/-- Reads a row of a rule table. The columns are looked at in a fixed order. -/
def Record.toRule (row : Record) : Except DefinitionError (RuleId × Rule) := do
  let id ← ruleIdOf (← row.required "ID")
  let attributeName ← row.requiredText "ATTRIBUTE"
  let operator ← row.requiredText "OPERATOR"
  let value ← row.requiredText "VALUE"
  let name ← row.requiredText "NAME"
  let rule ← Rule.make value attributeName operator name (row.optionalText "COMMENTS")
  return (id, rule)

namespace RuleSet

/-- Reads a row and adds its rule. -/
def addRow (rs : RuleSet) (row : Record) : Except DefinitionError RuleSet := do
  let (id, rule) ← row.toRule
  rs.add id rule

/-- The rule set of a table. -/
def ofRows (rows : List Record) : Except DefinitionError RuleSet :=
  foldNumbered (fun i rs row => (rs.addRow row).mapError (.inRow .rule i row)) 0 empty rows

end RuleSet

end ClassificationKey
