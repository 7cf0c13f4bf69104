import ClassificationKey.Key
import ClassificationKey.Proofs.Classification.Agreement
import ClassificationKey.Proofs.Classification.Bound
import ClassificationKey.Proofs.Text.Trim

/-!
# What a classification reads of a record

A rule reads the text form of its attribute, trimmed, and nothing else of a record
(`Rule.apply_eq_match`). So a key reads only the texts of the attributes that its rules test, and the
attribute that identifies records: two records that do not differ in them are classified alike
(`Key.classify_of_same_texts`).
-/

namespace ClassificationKey

variable {record record' : Record}

/-- The text form of an attribute, trimmed, if the record has the attribute. -/
def Record.text? (r : Record) (name : String) : Option String :=
  (r.get? name).map fun v => Text.trim v.toText

namespace Rule

theorem accepts_trim (rule : Rule) (text : String) :
    rule.accepts (Text.trim text) = rule.accepts text := by
  unfold accepts
  rw [Text.trim_trim]

theorem apply_eq_match (rule : Rule) (record : Record) :
    rule.apply record =
      match record.text? rule.attributeName with
      | some text => .ok (rule.accepts text)
      | none => .error (.missingAttribute rule.name rule.attributeName) := by
  rw [apply, Record.text?]
  cases record.get? rule.attributeName with
  | none => rfl
  | some v => exact congrArg Except.ok (rule.accepts_trim v.toText).symm

end Rule

namespace Key

open DecisionGraph

variable {k : Key}

/-- Some guard of the key that compiles mentions the rule, and the rule set has it. -/
def Uses (k : Key) (rule : Rule) : Prop :=
  ∃ e ∈ k.graph.edges, ∃ guard, e.guard = .ok guard ∧
    ∃ id ∈ guard.ruleIds, k.rules.get? id = some rule

/-- Guards come to the same for records that have the same texts. -/
theorem keeps_truth {P : EvalError → Prop}
    (htext : ∀ rule, k.Uses rule →
      record.text? rule.attributeName = record'.text? rule.attributeName)
    {e : Edge} (he : e ∈ k.graph.edges) :
    Keeps P (e.truth k.rules record) (e.truth k.rules record') := by
  refine e.keeps_truth fun guard hguard id hid _ => ?_
  rw [RuleSet.evalTree, RuleSet.evalTree]
  cases hrule : k.rules.get? id with
  | none => rfl
  | some rule =>
    have huses : k.Uses rule := ⟨e, he, guard, hguard, id, Guard.mem_ruleIds.mpr hid, hrule⟩
    dsimp only
    rw [rule.apply_eq_match, rule.apply_eq_match, htext rule huses]

/-- Two records that are identified alike, and of which each attribute that the key tests has the same
trimmed text in both or is missing from both, are classified alike; an error carries the record that
it is about. -/
theorem classify_of_same_texts (k : Key) (record record' : Record)
    (htext : ∀ rule, k.Uses rule →
      record.text? rule.attributeName = record'.text? rule.attributeName)
    (hid : recordId k.settings record = recordId k.settings record') :
    k.classify record' = (k.classify record).mapError fun e => { e with record := record' } :=
  classify_eq_of_keeps (P := fun _ => True) (fun _ he => keeps_truth htext he) hid.symm
    fun _ _ _ _ => trivial

def sizeAsNumber : Record := .ofList [("plot", .integer 7), ("size", .integer 5)]

/-- The same plot and size, written otherwise, and an attribute that no rule tests. -/
def sizeAsText : Record :=
  .ofList [("Plot", .integer 7), ("Size ", .text " 5 "), ("hue", .truth true)]

theorem classify_sizeAsText :
    ∃ g, ofDeclarations "Key" twoSteps false = .ok g ∧
      ∃ c, (mk sizeRules g { idField := some "plot" }).classify sizeAsNumber = .ok c ∧
        (mk sizeRules g { idField := some "plot" }).classify sizeAsText = .ok c := by
  obtain ⟨g, hg, hok⟩ : ∃ g, ofDeclarations "Key" twoSteps false = .ok g ∧
      ((mk sizeRules g { idField := some "plot" }).classify sizeAsNumber).isOk = true :=
    ⟨_, rfl, by decide +kernel⟩
  have hid : recordId { idField := some "plot" } sizeAsNumber =
      recordId { idField := some "plot" } sizeAsText := by decide +kernel
  have htext : ∀ rule, (mk sizeRules g { idField := some "plot" }).Uses rule →
      sizeAsNumber.text? rule.attributeName = sizeAsText.text? rule.attributeName := by
    rintro rule ⟨_, _, _, _, _, _, hrule⟩
    rw [attributeName_of_get?_sizeRules hrule]
    decide +kernel
  have hsame := classify_of_same_texts _ sizeAsNumber sizeAsText htext hid
  obtain ⟨c, hc⟩ := exists_eq_ok_of_isOk hok
  rw [hc] at hsame
  exact ⟨g, hg, c, hc, hsame⟩

end Key

end ClassificationKey
