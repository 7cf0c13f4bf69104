import ClassificationKey.Proofs.Classification.Bound
import ClassificationKey.Proofs.Graph.Declared
import ClassificationKey.Proofs.References
import ClassificationKey.Proofs.RuleSet.Evaluation
import ClassificationKey.Proofs.Text.Trim

/-!
# Undefined rules that a classification meets

A guard that fails for want of a rule has that rule at a leaf (`Edge.exists_leaf_of_truth`), and its
edge leaves the couplet where the classification stops (`Outcome.exists_edge_of_eval`). So the
references of a key foretell every undefined rule that some record meets, whichever rules its short
circuits skip (`Key.undefinedReferences_spec`). A reference has the text of its edge and an error has
that of the compiled guard; they agree since construction trims the texts of edges
(`Built.trim_expression`).
-/

namespace ClassificationKey

variable {rules : RuleSet} {record : Record}

theorem Guard.source_of_compile {s : String} {guard : Guard.Compiled}
    (h : Guard.compile s = .ok guard) : guard.source = Text.trim s := by
  obtain ⟨tree, -, hguard⟩ := bind_eq_ok_iff.mp h
  cases hguard
  rfl

/-- A rule that is met and is not there stands at a leaf of the guard. -/
theorem Edge.exists_leaf_of_truth {e : Edge} {id : RuleId} {expression : String}
    (h : e.truth rules record = .error (.undefinedRule id expression)) :
    ∃ guard, e.guard = .ok guard ∧ id ∈ guard.tree.leaves ∧ rules.get? id = none ∧
      expression = Text.trim e.expression := by
  cases hguard : e.guard with
  | error err =>
    rw [truth, hguard] at h
    cases h
  | ok guard =>
    rw [truth_of_guard_eq hguard] at h
    obtain ⟨id', hleaf, hfault⟩ := RuleSet.exists_leafFault h
    cases hfault with
    | undefined nowhere =>
      rw [e.guard_eq] at hguard
      exact ⟨guard, rfl, hleaf, nowhere, Guard.source_of_compile hguard⟩

namespace DecisionGraph

variable {g : DecisionGraph} {settings : Settings}

theorem Built.trim_expression {check : Bool} (h : Built check g) {e : Edge} (he : e ∈ g.edges) :
    Text.trim e.expression = e.expression := by
  obtain ⟨_, _, _, hg⟩ := h.exists_assemble
  obtain ⟨d, -, hd⟩ := forall₂_exists_left (isDeclaredBy_of_assemble hg).edges e he
  rw [hd.expression, Text.trim_trim]

/-- The guard that ends a classification with its error leaves the last couplet of the path. -/
theorem Outcome.exists_edge_of_eval {e : ClassifyError} {err : EvalError}
    (h : g.Outcome rules record settings (.error e)) (he : e.failure = .eval err) :
    ∃ c, e.path.getLast? = some c ∧ ∃ f ∈ g.children c.id, f.truth rules record = .error err := by
  cases h with
  | @stopped path c failure walk last not_terminal within stops =>
    obtain rfl := he
    cases stops with
    | eval split _ fails => exact ⟨c, last, _, by simp [split], fails⟩
  | exhausted => cases he

end DecisionGraph

namespace Key

open DecisionGraph

variable {k : Key}

/-- An undefined rule that a classification meets is listed, at the couplet where it is met. -/
theorem exists_reference_of_classify {check : Bool} (hbuilt : Built check k.graph)
    {settings : Settings} {e : ClassifyError} {id : RuleId} {expression : String}
    (h : k.graph.classify k.rules record settings = .error e)
    (he : e.failure = .eval (.undefinedRule id expression)) :
    ∃ c, e.path.getLast? = some c ∧
      ∃ r ∈ k.undefinedReferences, r.rule = id ∧ r.expression = expression ∧ r.input = c.id := by
  have houtcome := outcome_classify k.graph k.rules record settings
  rw [h] at houtcome
  obtain ⟨c, hlast, f, hf, htruth⟩ := houtcome.exists_edge_of_eval he
  obtain ⟨hedge, hsource⟩ := mem_children.mp hf
  obtain ⟨guard, hguard, hleaf, hnone, rfl⟩ := Edge.exists_leaf_of_truth htruth
  refine ⟨c, hlast, ⟨f.source.id, f.target.id, f.expression, id⟩, ?_, rfl, ?_, hsource⟩
  · exact mem_undefinedReferences_iff.mpr
      ⟨f, hedge, mem_undefinedReferencesOf_iff.mpr ⟨guard, id, hguard, hleaf, hnone, rfl⟩⟩
  · exact (hbuilt.trim_expression hedge).symm

/-- The undefined references of a key are, edge by edge, the rules at the leaves of its guard that the
rule set lacks. Whenever a classification ends with an undefined rule, the list has an entry for that
rule, with the text that is quoted, at the couplet where the classification ends; and where the list is
empty, no classification ends so. -/
theorem undefinedReferences_spec {check : Bool} (k : Key) (hbuilt : Built check k.graph) :
    (∃ parts, List.Forall₂ (fun e refs => e.Reports k.rules refs) k.graph.edges parts ∧
        k.undefinedReferences = parts.flatten) ∧
      (∀ record settings e id expression, k.graph.classify k.rules record settings = .error e →
        e.failure = .eval (.undefinedRule id expression) →
          ∃ c, e.path.getLast? = some c ∧ ∃ r ∈ k.undefinedReferences,
            r.rule = id ∧ r.expression = expression ∧ r.input = c.id) ∧
      (k.undefinedReferences = [] → ∀ record settings e,
        k.graph.classify k.rules record settings = .error e →
          ∀ id expression, e.failure ≠ .eval (.undefinedRule id expression)) := by
  refine ⟨k.exists_reports, fun record settings e id expression h he => ?_, ?_⟩
  · exact exists_reference_of_classify hbuilt h he
  · intro hnil record settings e h id expression he
    obtain ⟨c, -, r, hr, -⟩ := exists_reference_of_classify hbuilt h he
    rw [hnil] at hr
    cases hr

/-- The second question asks for two rules, the second of which `sizeRules` lacks. -/
def unknownSecond : List Declaration :=
  [⟨.number 0, "1", ⟨.number 1, .branch, "Something", ""⟩⟩,
    ⟨.number 1, " 2 and 3 ", ⟨.text "R", .terminal, "Round", ""⟩⟩]

theorem undefinedReferences_unknownSecond :
    ∃ g, ofDeclarations "Key" unknownSecond false = .ok g ∧
      ∃ e, g.classify sizeRules (.ofList [("size", .text "xl")]) {} = .error e ∧
        e.failure = .eval (.undefinedRule 3 "2 and 3") ∧
        ∃ c, e.path.getLast? = some c ∧
          ∃ r ∈ undefinedReferences ⟨sizeRules, g, {}⟩,
            r.rule = 3 ∧ r.expression = "2 and 3" ∧ r.input = c.id := by
  obtain ⟨g, hg, hfails⟩ : ∃ g, ofDeclarations "Key" unknownSecond false = .ok g ∧
      (match g.classify sizeRules (.ofList [("size", .text "xl")]) {} with
        | .ok _ => none
        | .error e => some e.failure) = some (.eval (.undefinedRule 3 "2 and 3")) :=
    ⟨_, rfl, by decide +kernel⟩
  refine ⟨g, hg, ?_⟩
  cases he : g.classify sizeRules (.ofList [("size", .text "xl")]) {} with
  | ok c =>
    rw [he] at hfails
    cases hfails
  | error e =>
    rw [he] at hfails
    have hfailure := Option.some.inj hfails
    exact ⟨e, rfl, hfailure,
      (undefinedReferences_spec ⟨sizeRules, g, {}⟩ (.ofDeclarations hg)).2.1 _ _ e _ _ he hfailure⟩

end Key

end ClassificationKey
