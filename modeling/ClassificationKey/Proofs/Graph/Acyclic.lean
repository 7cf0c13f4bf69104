import ClassificationKey.Proofs.Graph.Assembly
import ClassificationKey.Proofs.Graph.Search

/-!
# Cycles of a decision graph

The search for a cycle, run on the couplets of a linked graph, meets one exactly when some couplet
leads back to itself along the edges (`findCycle_spec`). So no couplet of a graph that was built with
the cycle check leads back to itself (`Built.not_hasCycle`).
-/

namespace ClassificationKey.DecisionGraph

open Relation

/-- An edge of the graph leads from couplet `a` to couplet `b`. -/
def Joins (g : DecisionGraph) (a b : CoupletId) : Prop :=
  ∃ e ∈ g.edges, e.source.id = a ∧ e.target.id = b

theorem leads_successors (g : DecisionGraph) : Graph.Leads g.successors = g.Joins := by
  funext a b
  exact propext mem_successors

namespace Linked

variable {g : DecisionGraph} (h : g.Linked)
include h

theorem mem_ids_of_successors_ne_nil (a : CoupletId) (ha : g.successors a ≠ []) : a ∈ g.ids := by
  obtain ⟨b, hb⟩ := List.exists_mem_of_ne_nil _ ha
  obtain ⟨e, he, rfl, -⟩ := mem_successors.mp hb
  exact h.source_id_mem he

theorem genuine_of_closure? {c : Graph.Closure CoupletId}
    (hc : Graph.closure? g.successors g.ids = some c) : c.Genuine g.successors :=
  Graph.genuine_of_closure? h.mem_ids_of_successors_ne_nil hc

theorem isSome_findCycle_iff :
    (Graph.findCycle g.successors g.ids).isSome ↔ Graph.HasCycle g.Joins := by
  rw [← leads_successors, ← Graph.isSome_closure?_iff h.mem_ids_of_successors_ne_nil,
    Graph.findCycle, Option.isSome_map]

end Linked

theorem Built.not_hasCycle {g : DecisionGraph} (h : Built true g) : ¬ Graph.HasCycle g.Joins := by
  rw [← h.linked.isSome_findCycle_iff, h.findCycle_eq_none]
  simp

/-- A graph whose edges all lead from a lower rank to a higher one passes the cycle check. -/
theorem checkCycles_of_rank {g : DecisionGraph} (h : g.Linked) (rank : CoupletId → Nat)
    (hrank : ∀ e ∈ g.edges, rank e.source.id < rank e.target.id) (check : Bool) :
    g.checkCycles check = .ok () := by
  have hacyclic : ¬ Graph.HasCycle g.Joins := by
    refine Graph.not_hasCycle_of_rank rank ?_
    rintro _ _ ⟨e, he, rfl, rfl⟩
    exact hrank e he
  rw [checkCycles_eq_ok_iff, ← Option.not_isSome_iff_eq_none, h.isSome_findCycle_iff]
  exact fun _ => hacyclic

/-- The search for a cycle of a linked graph ends. It finds a path exactly when there is a cycle; the
path is a cycle, and is what the error of the cycle check carries; and the couplet that closes it is
found on the stack. -/
theorem findCycle_spec {description : String} {declared : List Declaration}
    {locate : Nat → DefinitionError → DefinitionError} {g : DecisionGraph}
    (h : link description declared locate = .ok g) :
    ((∃ path, Graph.findCycle g.successors g.ids = some path) ↔ Graph.HasCycle g.Joins) ∧
      (∀ path, Graph.findCycle g.successors g.ids = some path → Graph.IsCycle g.Joins path) ∧
      (∀ path, g.checkCycles true = .error (.cyclicKey path) ↔
        Graph.findCycle g.successors g.ids = some path) ∧
      ∀ c, Graph.closure? g.successors g.ids = some c → ∃ i, c.position? = some i := by
  have hl := linked_of_link h
  refine ⟨?_, fun path hp => ?_, fun path => ?_, fun c hc => ?_⟩
  · rw [← hl.isSome_findCycle_iff, Option.isSome_iff_exists]
  · obtain ⟨c, hc, rfl⟩ := Option.map_eq_some_iff.mp hp
    exact leads_successors g ▸ (hl.genuine_of_closure? hc).isCycle
  · unfold checkCycles
    cases Graph.findCycle g.successors g.ids <;> simp
  · exact Option.isSome_iff_exists.mp (hl.genuine_of_closure? hc).isSome_position?

/-- Two couplets apart from the root that lead to each other. -/
def detachedLoop : List Declaration :=
  [⟨.number 0, "1", ⟨.number 9, .terminal, "Leaf", ""⟩⟩,
    ⟨.number 5, "1", ⟨.number 6, .branch, "B", ""⟩⟩,
    ⟨.number 6, "1", ⟨.number 5, .branch, "A", ""⟩⟩]

theorem isCycle_detachedLoop :
    ∃ g, link "Key" detachedLoop (fun _ e => e) = .ok g ∧
      ∃ path, g.checkCycles true = .error (.cyclicKey path) ∧ Graph.IsCycle g.Joins path := by
  have hlink : ∃ g, link "Key" detachedLoop (fun _ e => e) = .ok g ∧
      g.Joins (.number 5) (.number 6) ∧ g.Joins (.number 6) (.number 5) :=
    ⟨_, rfl, ⟨_, .tail _ (.head _), rfl, rfl⟩, ⟨_, .tail _ (.tail _ (.head _)), rfl, rfl⟩⟩
  obtain ⟨g, hg, hforth, hback⟩ := hlink
  obtain ⟨hfound, hcycle, herror, -⟩ := findCycle_spec hg
  obtain ⟨path, hpath⟩ := hfound.mpr ⟨_, .tail (.single hforth) hback⟩
  exact ⟨g, hg, path, (herror path).mpr hpath, hcycle path hpath⟩

end ClassificationKey.DecisionGraph
