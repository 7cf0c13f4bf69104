import ClassificationKey.Proofs.RuleSet.Extension

/-!
# Evaluation where facts are missing

Not every rule has a truth value on a record: the rule may be undefined, or its attribute missing. An
assignment completes the record when it agrees with every rule that has one. A guard that is evaluated
all the same has the truth value that the evaluation returns under every completion
(`holds_of_evalTree`), since what was skipped could not have changed it; and if all its leaves have
truth values, it is evaluated (`evalTree_eq_holds`).
-/

namespace ClassificationKey

theorem Rule.apply_eq_error_iff {rule : Rule} {record : Record} {e : EvalError} :
    rule.apply record = .error e ↔
      record.get? rule.attributeName = none ∧
        e = .missingAttribute rule.name rule.attributeName := by
  unfold Rule.apply
  cases record.get? rule.attributeName <;> simp [eq_comm]

theorem Rule.exists_apply_eq_ok {rule : Rule} {record : Record}
    (h : record.contains rule.attributeName = true) : ∃ b, rule.apply record = .ok b := by
  obtain ⟨v, hv⟩ := Option.isSome_iff_exists.mp h
  exact ⟨_, by rw [Rule.apply, hv]⟩

namespace RuleSet

variable {rs : RuleSet} {record : Record} {source : String}

/-- The assignment gives each rule the truth value that it has on the record, if it has one. -/
def Completes (rs : RuleSet) (record : Record) (v : RuleId → Bool) : Prop :=
  ∀ id rule b, rs.get? id = some rule → rule.apply record = .ok b → v id = b

/-- The truth value of a rule on the record; a rule that has none counts as false. -/
def assignment (rs : RuleSet) (record : Record) (id : RuleId) : Bool :=
  match rs.evalTree record "" (.rule id) with
  | .ok b => b
  | .error _ => false

theorem completes_assignment (rs : RuleSet) (record : Record) :
    rs.Completes record (rs.assignment record) := by
  intro id rule b hrule hb
  rw [assignment, evalTree_rule_eq_ok_iff.mpr ⟨rule, hrule, hb⟩]

/-- A guard that is evaluated has the value returned under every completion of the record. -/
theorem holds_of_evalTree {v : RuleId → Bool} (hv : rs.Completes record v) {g : Guard} {b : Bool}
    (h : rs.evalTree record source g = .ok b) : g.holds v = b := by
  induction g generalizing b with
  | rule id =>
    obtain ⟨rule, hrule, hb⟩ := evalTree_rule_eq_ok_iff.mp h
    exact hv id rule b hrule hb
  | not g ih =>
    have hg := ih (evalTree_not_eq_ok_iff.mp h)
    rw [Guard.holds, hg, Bool.not_not]
  | and l r ihl ihr =>
    rcases evalTree_and_eq_ok_iff.mp h with ⟨hl, rfl⟩ | ⟨hl, hr⟩
    · -- the right part is skipped, and the left one decides
      rw [Guard.holds, ihl hl, Bool.false_and]
    · rw [Guard.holds, ihl hl, ihr hr, Bool.true_and]
  | or l r ihl ihr =>
    rcases evalTree_or_eq_ok_iff.mp h with ⟨hl, rfl⟩ | ⟨hl, hr⟩
    · rw [Guard.holds, ihl hl, Bool.true_or]
    · rw [Guard.holds, ihl hl, ihr hr, Bool.false_or]

/-- Where every leaf has a truth value, so has the guard, and it is the classical one. -/
theorem evalTree_eq_holds {g : Guard}
    (h : ∀ id ∈ g.leaves, ∃ rule b, rs.get? id = some rule ∧ rule.apply record = .ok b)
    {v : RuleId → Bool} (hv : rs.Completes record v) :
    rs.evalTree record source g = .ok (g.holds v) := by
  cases hg : rs.evalTree record source g with
  | ok b => rw [holds_of_evalTree hv hg]
  | error e =>
    obtain ⟨id, hid, hfault⟩ := exists_leafFault hg
    obtain ⟨rule, b, hrule, hb⟩ := h id hid
    cases hfault with
    | undefined nowhere =>
      rw [nowhere] at hrule
      cases hrule
    | missing found absent =>
      obtain rfl := Option.some.inj (found.symm.trans hrule)
      rw [Rule.apply_eq_error_iff.mpr ⟨absent, rfl⟩] at hb
      cases hb

/-- What an evaluation returns is the truth value of the guard under every assignment that agrees with
the rules that have one; an error is that of a leaf, which is an undefined rule or one whose attribute
the record lacks; and a guard of which every leaf is a rule of the set with an attribute of the record
is evaluated. -/
theorem evalTree_spec (rs : RuleSet) (record : Record) (source : String) (g : Guard) :
    (∀ b, rs.evalTree record source g = .ok b → ∀ v, rs.Completes record v → g.holds v = b) ∧
      (∀ e, rs.evalTree record source g = .error e → ∃ id ∈ g.leaves,
        rs.get? id = none ∧ e = .undefinedRule id source ∨
          ∃ rule, rs.get? id = some rule ∧ rule.apply record = .error e ∧
            e = .missingAttribute rule.name rule.attributeName) ∧
      ((∀ id ∈ g.leaves, ∃ rule, rs.get? id = some rule ∧
          record.contains rule.attributeName = true) →
        ∀ v, rs.Completes record v → rs.evalTree record source g = .ok (g.holds v)) ∧
      rs.Completes record (rs.assignment record) := by
  refine ⟨fun b hb v hv => holds_of_evalTree hv hb, fun e he => ?_, fun hleaves v hv => ?_,
    completes_assignment rs record⟩
  · obtain ⟨id, hid, hfault⟩ := exists_leafFault he
    refine ⟨id, hid, ?_⟩
    cases hfault with
    | undefined nowhere => exact .inl ⟨nowhere, rfl⟩
    | @missing rule found absent =>
      exact .inr ⟨rule, found, Rule.apply_eq_error_iff.mpr ⟨absent, rfl⟩, rfl⟩
  · refine evalTree_eq_holds (fun id hid => ?_) hv
    obtain ⟨rule, hrule, hcontains⟩ := hleaves id hid
    obtain ⟨b, hb⟩ := Rule.exists_apply_eq_ok hcontains
    exact ⟨rule, b, hrule, hb⟩

/-- A record on which the rules about colour have no truth value. -/
def sizeOnly : Record := .ofList [("size", .text "xl")]

/-- The second rule decides; the third lacks its attribute, and the ninth is undefined. -/
def decidedFirst : Guard := .or (.rule 2) (.and (.rule 3) (.rule 9))

theorem holds_decidedFirst :
    (colourRules.evalTree sizeOnly "2 or 3 and 9" decidedFirst = .ok true ∧
        ∀ v, colourRules.Completes sizeOnly v → decidedFirst.holds v = true) ∧
      (colourRules.evalTree sizeOnly "not 9" (.not (.rule 9)) = .error (.undefinedRule 9 "not 9") ∧
        ∃ id ∈ (Guard.rule 9).not.leaves, colourRules.get? id = none) ∧
      colourRules.evalTree sizeOnly "1 and not 2" (.and (.rule 1) (.not (.rule 2))) =
        .ok ((Guard.and (.rule 1) (.not (.rule 2))).holds (colourRules.assignment sizeOnly)) := by
  have htrue : colourRules.evalTree sizeOnly "2 or 3 and 9" decidedFirst = .ok true := by
    decide +kernel
  have herror : colourRules.evalTree sizeOnly "not 9" (.not (.rule 9)) =
      .error (.undefinedRule 9 "not 9") := by
    decide +kernel
  have hleaves : ∀ id ∈ (Guard.and (.rule 1) (.not (.rule 2))).leaves,
      ∃ rule, colourRules.get? id = some rule ∧ sizeOnly.contains rule.attributeName = true := by
    have hall : ((Guard.and (.rule 1) (.not (.rule 2))).leaves.all fun id =>
        (colourRules.get? id).any fun rule => sizeOnly.contains rule.attributeName) = true := by
      decide +kernel
    exact fun id hid => (Option.any_eq_true _ _).mp (List.all_eq_true.mp hall id hid)
  obtain ⟨hvalue, -, -, -⟩ := evalTree_spec colourRules sizeOnly "2 or 3 and 9" decidedFirst
  obtain ⟨-, hfault, -, -⟩ := evalTree_spec colourRules sizeOnly "not 9" (.not (.rule 9))
  obtain ⟨-, -, hdefined, hcompletes⟩ :=
    evalTree_spec colourRules sizeOnly "1 and not 2" (.and (.rule 1) (.not (.rule 2)))
  obtain ⟨id, hid, ⟨hnone, -⟩ | ⟨rule, -, -, hmissing⟩⟩ := hfault _ herror
  · exact ⟨⟨htrue, hvalue true htrue⟩, ⟨herror, id, hid, hnone⟩, hdefined hleaves _ hcompletes⟩
  · cases hmissing

end RuleSet

end ClassificationKey
