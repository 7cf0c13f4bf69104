import ClassificationKey.Proofs.Row
import ClassificationKey.RuleSet.Basic

/-!
# Evaluating guards

A connective evaluates its parts in turn (`evalTree_and_eq_bind`). The text that is quoted shows only
in the errors of an evaluation (`evalTree_eq_mapError`), so a guard and its negation are evaluated
alike though their texts differ. An evaluation that fails does so at a leaf that it reaches, and
`LeafFault` says why (`exists_leafFault`).
-/

namespace ClassificationKey

/-- The error as it is when another text is quoted. -/
def EvalError.quoting (source : String) : EvalError → EvalError
  | .undefinedRule id _ => .undefinedRule id source
  | e => e

namespace RuleSet

variable (rs : RuleSet) (record : Record)

/-- Why a rule has no truth value on a record. -/
inductive LeafFault (source : String) (id : RuleId) : EvalError → Prop where
  | undefined (nowhere : rs.get? id = none) : LeafFault source id (.undefinedRule id source)
  | missing {rule : Rule} (found : rs.get? id = some rule)
      (absent : record.get? rule.attributeName = none) :
      LeafFault source id (.missingAttribute rule.name rule.attributeName)

variable {rs record} {source : String}

/-! ## Connectives -/

theorem evalTree_not_eq_bind (g : Guard) :
    rs.evalTree record source g.not = (rs.evalTree record source g >>= fun b => .ok (!b)) := by
  rw [evalTree]
  cases rs.evalTree record source g <;> rfl

theorem evalTree_and_eq_bind (a b : Guard) :
    rs.evalTree record source (a.and b) =
      (rs.evalTree record source a >>= fun v =>
        if v then rs.evalTree record source b else .ok false) := by
  rw [evalTree]
  cases rs.evalTree record source a with
  | error e => rfl
  | ok v => cases v <;> rfl

theorem evalTree_or_eq_bind (a b : Guard) :
    rs.evalTree record source (a.or b) =
      (rs.evalTree record source a >>= fun v =>
        if v then .ok true else rs.evalTree record source b) := by
  rw [evalTree]
  cases rs.evalTree record source a with
  | error e => rfl
  | ok v => cases v <;> rfl

/-! ## The text that is quoted -/

theorem apply_eq_mapError (rule : Rule) (source : String) :
    rule.apply record = (rule.apply record).mapError (.quoting source) := by
  unfold Rule.apply
  cases record.get? rule.attributeName <;> rfl

theorem evalTree_eq_mapError (source source' : String) (g : Guard) :
    rs.evalTree record source g = (rs.evalTree record source' g).mapError (.quoting source) := by
  induction g with
  | rule id =>
    simp only [evalTree]
    cases rs.get? id with
    | none => rfl
    | some rule => exact apply_eq_mapError rule source
  | not g ih =>
    rw [evalTree_not_eq_bind, evalTree_not_eq_bind, ih, mapError_bind]
    rfl
  | and a b iha ihb =>
    rw [evalTree_and_eq_bind, evalTree_and_eq_bind, iha, ihb, mapError_bind_ite]
    rfl
  | or a b iha ihb =>
    rw [evalTree_or_eq_bind, evalTree_or_eq_bind, iha, ihb, mapError_bind_ite]
    rfl

theorem evalTree_eq_ok_iff (source source' : String) {g : Guard} {b : Bool} :
    rs.evalTree record source g = .ok b ↔ rs.evalTree record source' g = .ok b := by
  rw [evalTree_eq_mapError source source', mapError_eq_ok_iff]

theorem evalTree_not_eq_ok_iff {g : Guard} {b : Bool} :
    rs.evalTree record source g.not = .ok b ↔ rs.evalTree record source g = .ok !b := by
  rw [evalTree]
  cases rs.evalTree record source g with
  | error e => simp
  | ok v => cases v <;> cases b <;> simp

theorem evalTree_rule_eq_ok_iff {id : RuleId} {b : Bool} :
    rs.evalTree record source (.rule id) = .ok b ↔
      ∃ rule, rs.get? id = some rule ∧ rule.apply record = .ok b := by
  rw [evalTree]
  cases rs.get? id <;> simp

theorem evalTree_and_eq_ok_iff {a b : Guard} {v : Bool} :
    rs.evalTree record source (a.and b) = .ok v ↔
      rs.evalTree record source a = .ok false ∧ v = false ∨
        rs.evalTree record source a = .ok true ∧ rs.evalTree record source b = .ok v := by
  rw [evalTree_and_eq_bind, bind_eq_ok_iff, Bool.exists_bool]
  simp [eq_comm (a := false)]

theorem evalTree_or_eq_ok_iff {a b : Guard} {v : Bool} :
    rs.evalTree record source (a.or b) = .ok v ↔
      rs.evalTree record source a = .ok true ∧ v = true ∨
        rs.evalTree record source a = .ok false ∧ rs.evalTree record source b = .ok v := by
  rw [evalTree_or_eq_bind, bind_eq_ok_iff, Bool.exists_bool, or_comm]
  simp [eq_comm (a := true)]

/-! ## Where an evaluation fails -/

theorem leafFault_of_evalTree {id : RuleId} {e : EvalError}
    (h : rs.evalTree record source (.rule id) = .error e) : rs.LeafFault record source id e := by
  rw [evalTree] at h
  cases hrule : rs.get? id with
  | none =>
    rw [hrule] at h
    cases h
    exact .undefined hrule
  | some rule =>
    simp only [hrule, Rule.apply] at h
    cases hv : record.get? rule.attributeName with
    | none =>
      rw [hv] at h
      cases h
      exact .missing hrule hv
    | some v =>
      rw [hv] at h
      cases h

theorem evalTree_not_eq_error_iff {g : Guard} {e : EvalError} :
    rs.evalTree record source g.not = .error e ↔ rs.evalTree record source g = .error e := by
  simp [evalTree_not_eq_bind, bind_eq_error_iff]

theorem evalTree_and_eq_error_iff {a b : Guard} {e : EvalError} :
    rs.evalTree record source (a.and b) = .error e ↔
      rs.evalTree record source a = .error e ∨
        rs.evalTree record source a = .ok true ∧ rs.evalTree record source b = .error e := by
  simp [evalTree_and_eq_bind, bind_eq_error_iff]

theorem evalTree_or_eq_error_iff {a b : Guard} {e : EvalError} :
    rs.evalTree record source (a.or b) = .error e ↔
      rs.evalTree record source a = .error e ∨
        rs.evalTree record source a = .ok false ∧ rs.evalTree record source b = .error e := by
  simp [evalTree_or_eq_bind, bind_eq_error_iff]

/-- The error of an evaluation is that of a leaf. -/
theorem exists_leafFault {g : Guard} {e : EvalError}
    (h : rs.evalTree record source g = .error e) :
    ∃ id ∈ g.leaves, rs.LeafFault record source id e := by
  induction g with
  | rule id => exact ⟨id, List.mem_singleton_self id, leafFault_of_evalTree h⟩
  | not g ih => exact ih (evalTree_not_eq_error_iff.mp h)
  | and a b iha ihb =>
    rcases evalTree_and_eq_error_iff.mp h with ha | ⟨-, hb⟩
    · obtain ⟨id, hid, hfault⟩ := iha ha
      exact ⟨id, List.mem_append_left b.leaves hid, hfault⟩
    · obtain ⟨id, hid, hfault⟩ := ihb hb
      exact ⟨id, List.mem_append_right a.leaves hid, hfault⟩
  | or a b iha ihb =>
    rcases evalTree_or_eq_error_iff.mp h with ha | ⟨-, hb⟩
    · obtain ⟨id, hid, hfault⟩ := iha ha
      exact ⟨id, List.mem_append_left b.leaves hid, hfault⟩
    · obtain ⟨id, hid, hfault⟩ := ihb hb
      exact ⟨id, List.mem_append_right a.leaves hid, hfault⟩

end RuleSet

end ClassificationKey
