import ClassificationKey.Proofs.Classification.Bound
import ClassificationKey.Proofs.References
import ClassificationKey.Proofs.RuleSet.Evaluation

/-!
# Dichotomous keys

A key is dichotomous when each of its questions is a guard and the negation of that guard. The two are
evaluated alike, so just one of them is true if they have a truth value at all: the walk stops at a
question only where its guard cannot be evaluated (`Dichotomous.exists_error_of_stops`). Without
cycles it then ends at a class or with such an error, and at a class if every rule and every attribute
that the guards ask for is there (`classify_of_dichotomous`).
-/

namespace ClassificationKey

/-- The edge has a guard that compiles, to this tree. -/
def Edge.IsGuardedBy (e : Edge) (t : Guard) : Prop := ∃ source, e.guard = .ok ⟨source, t⟩

namespace DecisionGraph

/-- Each couplet that is no class has two edges, guarded by a tree and by its negation. -/
def Dichotomous (g : DecisionGraph) : Prop :=
  ∀ c ∈ g.couplets, c.isTerminal = false →
    ∃ t yes no, (g.children c.id).Perm [yes, no] ∧ yes.IsGuardedBy t ∧ no.IsGuardedBy t.not

variable {g : DecisionGraph} {rules : RuleSet} {record : Record} {settings : Settings}

/-! ## One question -/

/-- An edge that is guarded by the negation has the opposite truth value, if there is one. -/
theorem truth_not_eq_ok_iff {yes no : Edge} {t : Guard} (hyes : yes.IsGuardedBy t)
    (hno : no.IsGuardedBy t.not) {b : Bool} :
    no.truth rules record = .ok b ↔ yes.truth rules record = .ok !b := by
  obtain ⟨source, hsource⟩ := hyes
  obtain ⟨source', hsource'⟩ := hno
  rw [Edge.truth_of_guard_eq hsource, Edge.truth_of_guard_eq hsource', RuleSet.evaluate,
    RuleSet.evaluate, RuleSet.evalTree_not_eq_ok_iff]
  exact RuleSet.evalTree_eq_ok_iff source' source

namespace Dichotomous

variable (h : g.Dichotomous) {c : Couplet} (hc : c ∈ g.couplets) (hopen : c.isTerminal = false)
include h hc hopen

theorem exists_guard {e : Edge} (he : e ∈ g.children c.id) : ∃ t, e.IsGuardedBy t := by
  obtain ⟨t, yes, no, hperm, hyes, hno⟩ := h c hc hopen
  rcases List.mem_pair.mp (hperm.mem_iff.mp he) with rfl | rfl
  · exact ⟨t, hyes⟩
  · exact ⟨t.not, hno⟩

/-- The walk stops only at a guard that has no truth value. -/
theorem exists_error_of_stops {failure : ClassifyFailure}
    (hstops : g.Stops rules record c failure) :
    ∃ e ∈ g.children c.id, ∃ err, e.truth rules record = .error err ∧ failure = .eval err := by
  obtain ⟨t, yes, no, hperm, hyes, hno⟩ := h c hc hopen
  have hopposite (b : Bool) :
      no.truth rules record = .ok b ↔ yes.truth rules record = .ok !b :=
    truth_not_eq_ok_iff hyes hno
  have hyesmem : yes ∈ g.children c.id := hperm.mem_iff.mpr (by simp)
  have hnomem : no ∈ g.children c.id := hperm.mem_iff.mpr (by simp)
  cases hstops with
  | @eval before after e err split earlier fails =>
    exact ⟨e, by simp [split], err, fails, rfl⟩
  | noMatch none_true =>
    have hfalse := none_true yes hyesmem
    rw [(hopposite false).mp (none_true no hnomem)] at hfalse
    cases hfalse
  | ambiguous evaluated several =>
    obtain ⟨b, hb⟩ := evaluated no hnomem
    have hlength := (hperm.filter (Edge.isTrue rules record)).length_eq
    rw [← trueEdges] at hlength
    simp only [List.filter_cons, Edge.isTrue_of_truth hb,
      Edge.isTrue_of_truth ((hopposite b).mp hb)] at hlength
    cases b <;> simp at hlength <;> omega

end Dichotomous

/-! ## Classification -/

/-- A classification that fails, though no bound can end it, fails at a guard that compiles and cannot
be evaluated. -/
theorem Dichotomous.exists_error_of_classify (h : g.Dichotomous) (hbuilt : Built true g)
    (hmax : ∀ n, settings.maxSteps = some n → g.nodeCount ≤ n) {e : ClassifyError}
    (he : g.classify rules record settings = .error e) :
    ∃ f ∈ g.edges, ∃ guard err, f.guard = .ok guard ∧ rules.evaluate guard record = .error err ∧
      e.failure = .eval err := by
  have houtcome := outcome_classify g rules record settings
  rw [he] at houtcome
  cases houtcome with
  | exhausted walk last not_terminal full =>
    have hlength := walk.length_le hbuilt.linked hbuilt.not_hasCycle
    rw [full] at hlength
    exact absurd (nodeCount_le_stepLimit hmax) (Nat.not_le.mpr hlength)
  | @stopped path c failure walk last not_terminal within stops =>
    have hc : c ∈ g.couplets := walk.subset_couplets hbuilt.linked (List.mem_of_getLast? last)
    obtain ⟨f, hf, err, hfails, rfl⟩ := h.exists_error_of_stops hc not_terminal stops
    obtain ⟨t, source, hguard⟩ := h.exists_guard hc not_terminal hf
    rw [Edge.truth_of_guard_eq hguard] at hfails
    exact ⟨f, (mem_children.mp hf).1, _, err, hguard, hfails, rfl⟩

/-- A dichotomous key that was built with the cycle check classifies every record, unless a guard
cannot be evaluated on it, under any bound that is absent or not below the number of couplets; and
every record without exception that has the attributes of all rules that the guards mention, if none
of these rules is undefined. -/
theorem classify_of_dichotomous (hbuilt : Built true g) (h : g.Dichotomous) (rules : RuleSet)
    (record : Record) (settings : Settings)
    (hmax : ∀ n, settings.maxSteps = some n → g.nodeCount ≤ n) :
    ((∃ c, g.classify rules record settings = .ok c) ∨
        ∃ e err, g.classify rules record settings = .error e ∧ e.failure = .eval err) ∧
      (Key.undefinedReferences ⟨rules, g, settings⟩ = [] →
        (∀ e ∈ g.edges, ∀ guard, e.guard = .ok guard → ∀ id ∈ guard.ruleIds, ∀ rule,
          rules.get? id = some rule → record.contains rule.attributeName = true) →
        ∃ c, g.classify rules record settings = .ok c) := by
  cases hresult : g.classify rules record settings with
  | ok c => exact ⟨.inl ⟨c, rfl⟩, fun _ _ => ⟨c, rfl⟩⟩
  | error e =>
    obtain ⟨f, hf, guard, err, hguard, hfails, hfailure⟩ :=
      h.exists_error_of_classify hbuilt hmax hresult
    refine ⟨.inr ⟨e, err, rfl, hfailure⟩, ?_⟩
    intro hnil hrecord
    obtain ⟨id, hid, hfault⟩ := RuleSet.exists_leafFault hfails
    cases hfault with
    | undefined nowhere =>
      obtain ⟨rule, hrule⟩ :=
        Key.exists_get?_of_undefinedReferences_eq_nil hnil hf hguard hid
      rw [nowhere] at hrule
      cases hrule
    | @missing rule found absent =>
      have hcontains := hrecord f hf guard hguard id (Guard.mem_ruleIds.mpr hid) rule found
      rw [Record.contains, absent] at hcontains
      cases hcontains

/-- Two questions, the second one with its negation first. -/
def twoQuestions : List Declaration :=
  [⟨.number 0, "1", ⟨.number 1, .branch, "Something", ""⟩⟩,
    ⟨.number 0, "not 1", ⟨.text "N", .terminal, "Nothing", ""⟩⟩,
    ⟨.number 1, "not (1 and 2)", ⟨.text "S", .terminal, "Small", ""⟩⟩,
    ⟨.number 1, "1 and 2", ⟨.text "L", .terminal, "Large", ""⟩⟩]

theorem classify_twoQuestions :
    ∃ g, ofDeclarations "Key" twoQuestions true = .ok g ∧ g.Dichotomous ∧
      Key.undefinedReferences ⟨sizeRules, g, {}⟩ = [] ∧
      ∃ c, g.classify sizeRules (.ofList [("size", .text "xl")]) {} = .ok c := by
  obtain ⟨g, hg, hreach, hsteps, hdefined, hdichotomous⟩ :
      ∃ g, link "Key" twoQuestions (fun _ e => e) = .ok g ∧ g.checkReach = .ok () ∧
        (∀ e ∈ g.edges, stepsBefore e.source.id < stepsBefore e.target.id) ∧
        Key.undefinedReferences ⟨sizeRules, g, {}⟩ = [] ∧ g.Dichotomous := by
    refine ⟨_, rfl, rfl, by decide, by decide, ?_⟩
    -- the couplets in turn: the root, the second question, and the classes
    refine List.forall_mem_cons.mpr ⟨fun _ => ⟨.rule 1, _, _, .refl _, ⟨_, rfl⟩, ⟨_, rfl⟩⟩, ?_⟩
    refine List.forall_mem_cons.mpr
      ⟨fun _ => ⟨.and (.rule 1) (.rule 2), _, _, .swap _ _ _, ⟨_, rfl⟩, ⟨_, rfl⟩⟩, ?_⟩
    exact List.forall_mem_cons.mpr ⟨nofun, List.forall_mem_cons.mpr ⟨nofun,
      List.forall_mem_cons.mpr ⟨nofun, List.forall_mem_nil _⟩⟩⟩
  have hbuilt : ofDeclarations "Key" twoQuestions true = .ok g :=
    assemble_eq_ok_iff.mpr
      ⟨hg, checkCycles_of_rank (linked_of_link hg) stepsBefore hsteps true, hreach⟩
  refine ⟨g, hbuilt, hdichotomous, hdefined, ?_⟩
  refine (classify_of_dichotomous (.ofDeclarations hbuilt) hdichotomous sizeRules _ {} nofun).2
    hdefined fun _ _ _ _ id _ rule hrule => ?_
  rw [attributeName_of_get?_sizeRules hrule]
  decide

end DecisionGraph

end ClassificationKey
