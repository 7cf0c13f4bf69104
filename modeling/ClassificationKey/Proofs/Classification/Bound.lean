import ClassificationKey.Proofs.Classification.Walk
import ClassificationKey.Proofs.Graph.Acyclic
import Mathlib.Data.List.Nodup
import Mathlib.Data.List.Perm.Subperm

/-!
# Walks on a graph without cycles

A walk takes an edge of the graph at each step, so where no couplet leads back to itself it meets no
couplet twice, and has at most as many couplets as the graph. A bound that is not below their number
then never ends a classification (`classify_of_built`).
-/

namespace ClassificationKey.DecisionGraph

variable {g : DecisionGraph} {rules : RuleSet} {record : Record} {settings : Settings}

/-! ## The couplets of a walk -/

theorem Follows.exists_edge {c d : Couplet} (h : g.Follows rules record c d) :
    ∃ e ∈ g.children c.id, e.target = d := by
  obtain ⟨before, e, after, hsplit, -, -, htarget⟩ := h.sole
  exact ⟨e, by simp [hsplit], htarget⟩

theorem Follows.joins {c d : Couplet} (h : g.Follows rules record c d) : g.Joins c.id d.id := by
  obtain ⟨e, he, rfl⟩ := h.exists_edge
  exact ⟨e, (mem_children.mp he).1, (mem_children.mp he).2, rfl⟩

namespace IsWalk

variable {path : List Couplet} (h : g.IsWalk rules record path)
include h

theorem isChain_ids : (path.map Couplet.id).IsChain g.Joins :=
  List.isChain_map_of_isChain Couplet.id (fun _ _ => Follows.joins) h.chain

theorem subset_couplets (hg : g.Linked) : path ⊆ g.couplets := by
  refine List.IsChain.induction (· ∈ g.couplets) path h.chain ?_ ?_
  · intro c d hcd _
    obtain ⟨e, he, rfl⟩ := hcd.exists_edge
    exact hg.target_mem e (mem_children.mp he).1
  · obtain ⟨rest, rfl⟩ := h.eq_cons
    exact fun _ => List.mem_cons_self

theorem nodup_ids (hacyclic : ¬ Graph.HasCycle g.Joins) : (path.map Couplet.id).Nodup :=
  Graph.nodup_of_isChain hacyclic h.isChain_ids

theorem length_le_of_nodup (hg : g.Linked) (hnodup : path.Nodup) : path.length ≤ g.nodeCount :=
  (hnodup.subperm (h.subset_couplets hg)).length_le

theorem length_le (hg : g.Linked) (hacyclic : ¬ Graph.HasCycle g.Joins) :
    path.length ≤ g.nodeCount :=
  h.length_le_of_nodup hg (List.Nodup.of_map Couplet.id (h.nodup_ids hacyclic))

end IsWalk

/-! ## The walk behind an outcome -/

namespace Outcome

theorem isWalk_steps {c : Classification} (h : g.Outcome rules record settings (.ok c)) :
    g.IsWalk rules record (c.steps.map Step.couplet) := by
  cases h with
  | @reached path c steps walk last terminal within indexed =>
    have hpath : steps.map Step.couplet = path := by
      refine List.ext_getElem? fun i => ?_
      rw [List.getElem?_map, indexed i, Option.map_map]
      exact Option.map_id_apply
    rwa [hpath]

theorem isWalk_path {e : ClassifyError} (h : g.Outcome rules record settings (.error e)) :
    g.IsWalk rules record e.path := by
  cases h with
  | stopped walk _ _ _ _ => exact walk
  | exhausted walk _ _ _ => exact walk

/-- Only a walk of more couplets than the bound is ended by it. -/
theorem length_of_limit {e : ClassifyError} {n : Nat}
    (h : g.Outcome rules record settings (.error e)) (he : e.failure = .limit n) :
    e.path.length = g.stepLimit settings + 1 := by
  cases h with
  | stopped _ _ _ _ stops =>
    cases he
    cases stops
  | exhausted _ _ _ full => exact full

end Outcome

/-! ## Classification -/

theorem nodeCount_le_stepLimit (h : ∀ n, settings.maxSteps = some n → g.nodeCount ≤ n) :
    g.nodeCount ≤ g.stepLimit settings := by
  unfold stepLimit
  cases hsteps : settings.maxSteps with
  | none => exact Nat.le_mul_of_pos_left _ (by decide)
  | some n => exact h n hsteps

/-- On a graph that was built with the cycle check, no classification is ended by a bound that is
absent or not below the number of couplets; and under any bound the couplets it visits are distinct,
so that there are no more of them than in the graph. -/
theorem classify_of_built (h : Built true g) (rules : RuleSet) (record : Record)
    (settings : Settings) :
    ((∀ n, settings.maxSteps = some n → g.nodeCount ≤ n) →
      ∀ e n, g.classify rules record settings = .error e → e.failure ≠ .limit n) ∧
      (∀ c, g.classify rules record settings = .ok c →
        (c.steps.map fun s => s.couplet.id).Nodup ∧ c.steps.length ≤ g.nodeCount) ∧
      ∀ e, g.classify rules record settings = .error e →
        (e.path.map Couplet.id).Nodup ∧ e.path.length ≤ g.nodeCount := by
  have houtcome := outcome_classify g rules record settings
  refine ⟨fun hmax e n he hlimit => ?_, fun c hc => ?_, fun e he => ?_⟩
  · rw [he] at houtcome
    have hlength := houtcome.isWalk_path.length_le h.linked h.not_hasCycle
    rw [houtcome.length_of_limit hlimit] at hlength
    exact absurd (nodeCount_le_stepLimit hmax) (Nat.not_le.mpr hlength)
  · rw [hc] at houtcome
    have hwalk := houtcome.isWalk_steps
    have hnodup := hwalk.nodup_ids h.not_hasCycle
    have hlength := hwalk.length_le h.linked h.not_hasCycle
    rw [List.map_map] at hnodup
    rw [List.length_map] at hlength
    exact ⟨hnodup, hlength⟩
  · rw [he] at houtcome
    have hwalk := houtcome.isWalk_path
    exact ⟨hwalk.nodup_ids h.not_hasCycle, hwalk.length_le h.linked h.not_hasCycle⟩

/-- One question between the root and a class. -/
def twoSteps : List Declaration :=
  [⟨.number 0, "1", ⟨.number 1, .branch, "Shape", ""⟩⟩,
    ⟨.number 1, "not 2", ⟨.text "R", .terminal, "Round", ""⟩⟩]

/-- The number of questions from the root to a couplet of `twoSteps`. -/
def stepsBefore : CoupletId → Nat
  | .number i => i.toNatClampNeg
  | .text _ => 2

/-- Both rules test one attribute; only the first accepts the texts without an `X`. -/
def sizeRules : RuleSet :=
  ⟨((∅ : Std.ExtTreeMap RuleId Rule).insert 1 ⟨"SIZE", .compare .contains "", "any", ""⟩).insert 2
    ⟨"SIZE", .compare .contains "X", "large", ""⟩⟩

theorem attributeName_of_get?_sizeRules {id : RuleId} {rule : Rule}
    (h : sizeRules.get? id = some rule) : rule.attributeName = "SIZE" := by
  simp only [sizeRules, RuleSet.get?, Std.ExtTreeMap.getElem?_insert] at h
  split at h
  · cases h
    rfl
  split at h
  · cases h
    rfl
  · simp at h

theorem classify_twoSteps :
    ∃ g, ofDeclarations "Key" twoSteps true = .ok g ∧
      ∀ e n, g.classify sizeRules (.ofList [("size", .text "s")])
        ⟨"Key", none, true, some 3⟩ = .error e → e.failure ≠ .limit n := by
  have hlink : ∃ g, link "Key" twoSteps (fun _ e => e) = .ok g ∧ g.nodeCount = 3 ∧
      g.checkReach = .ok () ∧ ∀ e ∈ g.edges, stepsBefore e.source.id < stepsBefore e.target.id :=
    ⟨_, rfl, rfl, rfl, by decide⟩
  obtain ⟨g, hg, hcount, hreach, hsteps⟩ := hlink
  have hcheck : g.checkCycles true = .ok () :=
    checkCycles_of_rank (linked_of_link hg) stepsBefore hsteps true
  have hbuilt : ofDeclarations "Key" twoSteps true = .ok g :=
    assemble_eq_ok_iff.mpr ⟨hg, hcheck, hreach⟩
  refine ⟨g, hbuilt, (classify_of_built (.ofDeclarations hbuilt) sizeRules _ _).1 ?_⟩
  rintro n ⟨⟩
  exact Nat.le_of_eq hcount

end ClassificationKey.DecisionGraph
