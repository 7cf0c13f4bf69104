import ClassificationKey.Proofs.Classification.Agreement
import ClassificationKey.Proofs.Classification.Bound

/-!
# Rule sets that are extended

A rule set extends another one when it has all of its rules, under the same ids. At each leaf of a
guard the two come to the same, unless the smaller one lacks the rule (`Extends.keeps_rule`). So more
rules change only what an undefined rule has stopped before: every other evaluation and every other
classification stays as it is (`Extends.classify_eq`).
-/

namespace ClassificationKey

/-- The error is not that of a rule which is not there. -/
def EvalError.OfDefined (e : EvalError) : Prop := ∀ id source, e ≠ .undefinedRule id source

namespace RuleSet

open DecisionGraph

/-- The second set has all rules of the first, under the same ids. -/
def Extends (rs rs' : RuleSet) : Prop := ∀ id rule, rs.get? id = some rule → rs'.get? id = some rule

namespace Extends

variable {rs rs' : RuleSet} (h : rs.Extends rs') {record : Record}
include h

theorem keeps_rule (source : String) (id : RuleId) :
    Keeps EvalError.OfDefined (rs.evalTree record source (.rule id))
      (rs'.evalTree record source (.rule id)) := by
  intro hdefined
  cases hrule : rs.get? id with
  | none =>
    have hfails : rs.evalTree record source (.rule id) = .error (.undefinedRule id source) := by
      rw [evalTree, hrule]
    exact absurd rfl (hdefined _ hfails id source)
  | some rule => rw [evalTree, evalTree, hrule, h id rule hrule]

theorem keeps_evaluate (guard : Guard.Compiled) :
    Keeps EvalError.OfDefined (rs.evaluate guard record) (rs'.evaluate guard record) :=
  keeps_evalTree fun id _ => h.keeps_rule guard.source id

theorem keeps_truth (e : Edge) :
    Keeps EvalError.OfDefined (e.truth rs record) (e.truth rs' record) :=
  e.keeps_truth fun guard _ id _ => h.keeps_rule guard.source id

/-- Adding rules to a rule set changes no classification but those that end with an undefined rule,
and no evaluation but those that fail for want of one. -/
theorem classify_eq :
    (∀ (g : DecisionGraph) (record : Record) (settings : Settings),
      (∀ e id source, g.classify rs record settings = .error e →
        e.failure ≠ .eval (.undefinedRule id source)) →
      g.classify rs' record settings = g.classify rs record settings) ∧
      ∀ (guard : Guard.Compiled) (record : Record),
        (∀ id source, rs.evaluate guard record ≠ .error (.undefinedRule id source)) →
        rs'.evaluate guard record = rs.evaluate guard record := by
  constructor
  · intro g record settings hdefined
    rw [g.classify_eq_of_keeps (fun e _ => h.keeps_truth e) rfl ?_]
    · cases hclassify : g.classify rs record settings with
      | ok c => rfl
      | error e =>
        obtain rfl := record_of_classify hclassify
        rfl
    · rintro e he _ hfailure id source rfl
      exact hdefined e id source he hfailure
  · intro guard record hdefined
    refine h.keeps_evaluate guard ?_
    rintro _ herror id source rfl
    exact hdefined id source herror

end Extends

/-- The rules of `sizeRules`, and a third one. -/
def colourRules : RuleSet :=
  ⟨sizeRules.rules.insert 3 ⟨"COLOUR", .compare .equal "RED", "red", ""⟩⟩

/-- The third rule is asked for only of what is not large. -/
def colourSecond : List Declaration :=
  [⟨.number 0, "2 or 3", ⟨.text "L", .terminal, "Large or red", ""⟩⟩]

theorem extends_colourRules : sizeRules.Extends colourRules := by
  intro id rule hrule
  have hne : id ≠ 3 := by
    rintro rfl
    simp [sizeRules, get?] at hrule
  rw [colourRules, get?_insert, if_neg hne.symm]
  exact hrule

theorem classify_colourRules :
    sizeRules.Extends colourRules ∧
      ∃ g, ofDeclarations "Key" colourSecond false = .ok g ∧
        (∃ c, g.classify sizeRules (.ofList [("size", .text "xl")]) {} = .ok c ∧
          g.classify colourRules (.ofList [("size", .text "xl")]) {} = .ok c) ∧
        ∃ guard, Guard.compile "2 or 3" = .ok guard ∧
          sizeRules.evaluate guard (.ofList [("size", .text "xl")]) = .ok true ∧
          colourRules.evaluate guard (.ofList [("size", .text "xl")]) = .ok true := by
  obtain ⟨hclassify, hevaluate⟩ := extends_colourRules.classify_eq
  obtain ⟨g, hg, hok⟩ : ∃ g, ofDeclarations "Key" colourSecond false = .ok g ∧
      (g.classify sizeRules (.ofList [("size", .text "xl")]) {}).isOk = true :=
    ⟨_, rfl, by decide⟩
  obtain ⟨guard, hguard, htrue⟩ : ∃ guard, Guard.compile "2 or 3" = .ok guard ∧
      sizeRules.evaluate guard (.ofList [("size", .text "xl")]) = .ok true :=
    ⟨_, rfl, by decide⟩
  obtain ⟨c, hc⟩ := exists_eq_ok_of_isOk hok
  refine ⟨extends_colourRules, g, hg, ⟨c, hc, ?_⟩, guard, hguard, htrue, ?_⟩
  · refine (hclassify g _ _ fun e _ _ he => ?_).trans hc
    rw [hc] at he
    cases he
  · refine (hevaluate guard _ fun id source he => ?_).trans htrue
    rw [htrue] at he
    cases he

end RuleSet

end ClassificationKey
