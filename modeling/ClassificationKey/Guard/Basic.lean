import Std.Data.ExtTreeSet

/-!
# Guards

A guard is a boolean expression over numbered rules. It stands on an edge of a key and says which
records may take it. This module holds the tree, the rules it mentions, and its truth under an
assignment of truth values to the rules.
-/

namespace ClassificationKey

/-- The number of a rule in its table. -/
abbrev RuleId := UInt32

/-- A boolean expression over rules. -/
inductive Guard where
  | rule (id : RuleId)
  | not (operand : Guard)
  | and (left right : Guard)
  | or (left right : Guard)
  deriving DecidableEq, Repr

namespace Guard

/-- The rules at the leaves, left to right, as often as they occur. -/
def leaves : Guard → List RuleId
  | .rule id => [id]
  | .not g => g.leaves
  | .and a b => a.leaves ++ b.leaves
  | .or a b => a.leaves ++ b.leaves

/-- The rules that a guard mentions, each once and ascending. -/
def ruleIds (g : Guard) : List RuleId := (Std.ExtTreeSet.ofList g.leaves).toList

/-- The truth value of a guard when `v` gives those of the rules. -/
def holds (v : RuleId → Bool) : Guard → Bool
  | .rule id => v id
  | .not g => !g.holds v
  | .and a b => a.holds v && b.holds v
  | .or a b => a.holds v || b.holds v

/-- The listed rules are exactly the leaves. -/
@[simp] theorem mem_ruleIds {x : RuleId} {g : Guard} : x ∈ g.ruleIds ↔ x ∈ g.leaves := by
  simp [ruleIds, Std.ExtTreeSet.mem_ofList]

theorem ruleIds_ascending (g : Guard) : g.ruleIds.Pairwise (fun x y => compare x y = .lt) :=
  Std.ExtTreeSet.ordered_toList

end Guard

end ClassificationKey
