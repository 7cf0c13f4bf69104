import ClassificationKey.Key
import Mathlib.Data.List.Forall2

/-!
# References to rules that are not there

The references that a key reports as undefined are those of the guards that compile, to the rules at
their leaves that the rule set lacks (`mem_undefinedReferences_iff`). They stand edge by edge, and for
each edge by rule, none of them twice (`exists_reports`).
-/

namespace ClassificationKey

theorem RuleSet.mem_undefinedIn_iff {rs : RuleSet} {g : Guard.Compiled} {id : RuleId} :
    id ∈ rs.undefinedIn g ↔ id ∈ g.tree.leaves ∧ rs.get? id = none := by
  simp [undefinedIn, contains, Guard.Compiled.ruleIds]

/-- What is to be reported of an edge: each rule that stands at a leaf of its guard, if the guard
compiles, and that is not in the rule set; once and in ascending order, with the ends and the text of
the edge. -/
structure Edge.Reports (e : Edge) (rules : RuleSet) (refs : List UndefinedReference) : Prop where
  about : ∀ r ∈ refs, r.input = e.source.id ∧ r.output = e.target.id ∧ r.expression = e.expression
  ascending : (refs.map UndefinedReference.rule).Pairwise (· < ·)
  mem_iff : ∀ id, id ∈ refs.map UndefinedReference.rule ↔
    ∃ g, e.guard = .ok g ∧ id ∈ g.tree.leaves ∧ rules.get? id = none

theorem RuleSet.undefinedIn_ascending (rs : RuleSet) (g : Guard.Compiled) :
    (rs.undefinedIn g).Pairwise (· < ·) := by
  refine List.Pairwise.filter _ (g.tree.ruleIds_ascending.imp fun {a b} hab => ?_)
  exact compareOfLessAndEq_eq_lt.mp hab

namespace Key

variable {k : Key}

theorem mem_undefinedReferencesOf_iff {e : Edge} {r : UndefinedReference} :
    r ∈ k.undefinedReferencesOf e ↔
      ∃ g id, e.guard = .ok g ∧ id ∈ g.tree.leaves ∧ k.rules.get? id = none ∧
        r = ⟨e.source.id, e.target.id, e.expression, id⟩ := by
  unfold undefinedReferencesOf
  cases e.guard with
  | error err => simp
  | ok g => simp [RuleSet.mem_undefinedIn_iff, and_assoc, eq_comm]

theorem reports_undefinedReferencesOf (k : Key) (e : Edge) :
    e.Reports k.rules (k.undefinedReferencesOf e) where
  about := by
    intro r hr
    obtain ⟨g, id, -, -, -, rfl⟩ := mem_undefinedReferencesOf_iff.mp hr
    exact ⟨rfl, rfl, rfl⟩
  ascending := by
    unfold undefinedReferencesOf
    cases e.guard with
    | error err => exact .nil
    | ok g =>
      simpa [Function.comp_def] using k.rules.undefinedIn_ascending g
  mem_iff := by
    intro id
    simp only [List.mem_map, mem_undefinedReferencesOf_iff]
    constructor
    · rintro ⟨r, ⟨g, id', hg, hleaf, hnone, rfl⟩, rfl⟩
      exact ⟨g, hg, hleaf, hnone⟩
    · rintro ⟨g, hg, hleaf, hnone⟩
      exact ⟨_, ⟨g, id, hg, hleaf, hnone, rfl⟩, rfl⟩

/-- The references stand in the order of the edges. -/
theorem exists_reports (k : Key) :
    ∃ parts, List.Forall₂ (fun e refs => e.Reports k.rules refs) k.graph.edges parts ∧
      k.undefinedReferences = parts.flatten := by
  refine ⟨k.graph.edges.map k.undefinedReferencesOf, ?_, List.flatMap_def⟩
  rw [List.forall₂_map_right_iff, List.forall₂_same]
  exact fun e _ => k.reports_undefinedReferencesOf e

theorem mem_undefinedReferences_iff {r : UndefinedReference} :
    r ∈ k.undefinedReferences ↔ ∃ e ∈ k.graph.edges, r ∈ k.undefinedReferencesOf e :=
  List.mem_flatMap

/-- Where no reference is undefined, every rule that a guard mentions is there. -/
theorem exists_get?_of_undefinedReferences_eq_nil (h : k.undefinedReferences = []) {e : Edge}
    (he : e ∈ k.graph.edges) {g : Guard.Compiled} (hg : e.guard = .ok g) {id : RuleId}
    (hid : id ∈ g.tree.leaves) : ∃ rule, k.rules.get? id = some rule := by
  cases hrule : k.rules.get? id with
  | some rule => exact ⟨rule, rfl⟩
  | none =>
    have hmem := mem_undefinedReferences_iff.mpr
      ⟨e, he, mem_undefinedReferencesOf_iff.mpr ⟨g, id, hg, hid, hrule, rfl⟩⟩
    rw [h] at hmem
    cases hmem

end Key

end ClassificationKey
