import ClassificationKey.Proofs.Classification.Walk
import ClassificationKey.Proofs.RuleSet.Evaluation

/-!
# Classifications that agree

One graph, under two rule sets and for two records. If every rule at a leaf of a guard comes to the
same in both, so does the guard (`keeps_evalTree`); if every guard does, so does each step of the walk
(`keeps_advance`) and the whole walk (`walkFrom_eq_of_keeps`), and the classifications differ in
nothing but the record that an error carries (`classify_eq_of_keeps`). All this is relative to a kind
of errors: where the first evaluation ends with another error nothing is said of the second.
-/

namespace ClassificationKey

section Keeps

variable {α β ε : Type} {P : ε → Prop}

/-- What the first computation comes to the second comes to as well, unless it is an error without
`P`. -/
def Keeps (P : ε → Prop) (x y : Except ε α) : Prop := (∀ e, x = .error e → P e) → y = x

theorem Keeps.refl (x : Except ε α) : Keeps P x x := fun _ => rfl

theorem Keeps.bind {x y : Except ε α} {f f' : α → Except ε β} (h : Keeps P x y)
    (hf : ∀ a, Keeps P (f a) (f' a)) : Keeps P (x >>= f) (y >>= f') := by
  intro hP
  have hxy : y = x := h fun e he => hP e (bind_eq_error_iff.mpr (.inl he))
  rw [hxy]
  cases x with
  | error e => rfl
  | ok a => exact hf a hP

end Keeps

variable {rules rules' : RuleSet} {record record' : Record} {P : EvalError → Prop}

/-! ## Guards -/

namespace RuleSet

variable {source : String}

/-- A guard comes to the same if all its leaves do, whichever of them are reached. -/
theorem keeps_evalTree {g : Guard}
    (h : ∀ id ∈ g.leaves, Keeps P (rules.evalTree record source (.rule id))
      (rules'.evalTree record' source (.rule id))) :
    Keeps P (rules.evalTree record source g) (rules'.evalTree record' source g) := by
  induction g with
  | rule id => exact h id (List.mem_singleton_self id)
  | not g ih =>
    rw [evalTree_not_eq_bind, evalTree_not_eq_bind]
    exact (ih h).bind fun b => .refl _
  | and a b iha ihb =>
    obtain ⟨ha, hb⟩ := List.forall_mem_append.mp h
    rw [evalTree_and_eq_bind, evalTree_and_eq_bind]
    refine (iha ha).bind fun v => ?_
    cases v with
    | true => exact ihb hb
    | false => exact .refl _
  | or a b iha ihb =>
    obtain ⟨ha, hb⟩ := List.forall_mem_append.mp h
    rw [evalTree_or_eq_bind, evalTree_or_eq_bind]
    refine (iha ha).bind fun v => ?_
    cases v with
    | true => exact .refl _
    | false => exact ihb hb

end RuleSet

theorem Edge.keeps_truth {e : Edge}
    (h : ∀ guard, e.guard = .ok guard → ∀ id ∈ guard.tree.leaves,
      Keeps P (rules.evalTree record guard.source (.rule id))
        (rules'.evalTree record' guard.source (.rule id))) :
    Keeps P (e.truth rules record) (e.truth rules' record') := by
  cases hguard : e.guard with
  | error err =>
    rw [truth, truth, hguard]
    exact .refl _
  | ok guard =>
    rw [truth_of_guard_eq hguard, truth_of_guard_eq hguard]
    exact RuleSet.keeps_evalTree (h guard hguard)

/-! ## One step -/

/-- If an evaluation stopped the classification, then one whose error has `P`. -/
def ClassifyFailure.Within (P : EvalError → Prop) (failure : ClassifyFailure) : Prop :=
  ∀ err, failure = .eval err → P err

namespace DecisionGraph

variable {g : DecisionGraph} {settings : Settings}

theorem keeps_matching {es : List Edge}
    (h : ∀ e ∈ es, Keeps P (e.truth rules record) (e.truth rules' record')) :
    Keeps P (matching rules record es) (matching rules' record' es) := by
  induction es with
  | nil => exact .refl _
  | cons e es ih =>
    obtain ⟨he, hes⟩ := List.forall_mem_cons.mp h
    rw [matching_cons_eq_bind, matching_cons_eq_bind]
    exact he.bind fun b => (ih hes).bind fun rest => .refl _

section

variable (h : ∀ e ∈ g.edges, Keeps P (e.truth rules record) (e.truth rules' record'))
include h

theorem keeps_advance (c : Couplet) :
    Keeps (ClassifyFailure.Within P) (g.advance rules record c) (g.advance rules' record' c) := by
  intro hP
  have hmatching : matching rules' record' (g.children c.id) =
      matching rules record (g.children c.id) := by
    refine keeps_matching (fun e he => h e (mem_children.mp he).1) fun err herr => ?_
    exact hP (.eval err) (by rw [advance, herr]) err rfl
  rw [advance, advance, hmatching]

/-! ## Whole walks -/

theorem walkFrom_eq_of_keeps (limit n : Nat) {c : Couplet}
    (hP : ∀ failure, (g.walkFrom rules record limit n c).1 = .error failure → failure.Within P) :
    g.walkFrom rules' record' limit n c = g.walkFrom rules record limit n c := by
  induction n generalizing c with
  | zero =>
    cases hterminal : c.isTerminal with
    | true => rw [walkFrom_of_terminal limit hterminal, walkFrom_of_terminal limit hterminal]
    | false => rw [walkFrom_zero limit hterminal, walkFrom_zero limit hterminal]
  | succ n ih =>
    cases hterminal : c.isTerminal with
    | true => rw [walkFrom_of_terminal limit hterminal, walkFrom_of_terminal limit hterminal]
    | false =>
      have hadvance : g.advance rules' record' c = g.advance rules record c := by
        refine keeps_advance h c fun failure hf => hP failure ?_
        rw [walkFrom_succ limit hterminal, hf]
      rw [walkFrom_succ limit hterminal, walkFrom_succ limit hterminal, hadvance]
      cases hnext : g.advance rules record c with
      | error failure => rfl
      | ok next =>
        have hrest := ih (c := next) fun failure hf => hP failure (by
          rw [walkFrom_succ limit hterminal, hnext]
          exact hf)
        dsimp only
        rw [hrest]

end

/-! ## Classification -/

theorem record_of_classify {e : ClassifyError} (h : g.classify rules record settings = .error e) :
    e.record = record := by
  have houtcome := outcome_classify g rules record settings
  rw [h] at houtcome
  cases houtcome <;> rfl

/-- Records with one id are classified alike if every guard comes to the same for both. -/
theorem classify_eq_of_keeps
    (h : ∀ e ∈ g.edges, Keeps P (e.truth rules record) (e.truth rules' record'))
    (hid : recordId settings record' = recordId settings record)
    (hP : ∀ e, g.classify rules record settings = .error e → e.failure.Within P) :
    g.classify rules' record' settings =
      (g.classify rules record settings).mapError fun e => { e with record := record' } := by
  have hwalk : g.walkFrom rules' record' (g.stepLimit settings) (g.stepLimit settings) g.root =
      g.walkFrom rules record (g.stepLimit settings) (g.stepLimit settings) g.root := by
    refine walkFrom_eq_of_keeps h _ _ fun failure hfailure => ?_
    exact hP _ (classify_of_walkFrom (Prod.ext hfailure rfl))
  rw [classify, classify, hwalk, hid]
  generalize g.walkFrom rules record (g.stepLimit settings) (g.stepLimit settings) g.root = w
  obtain ⟨outcome, path⟩ := w
  cases outcome <;> rfl

end DecisionGraph

end ClassificationKey
