import ClassificationKey.Proofs.Graph.Declared

/-!
# The arrows of a graph

An arrow is what an edge says apart from the names and comments of its couplets. The arrows of a graph
are those of its declarations (`IsDeclaredBy.map_arrow`). Declarations in another order make a graph if
they did before (`WellDeclared.of_perm`), and its couplets have the same ids in another order
(`IsDeclaredBy.ids_perm`).
-/

namespace ClassificationKey

open Relation

/-- The ends of an edge, its text, and the kind of couplet that it leads to. -/
structure Arrow where
  input : CoupletId
  expression : String
  output : CoupletId
  kind : CoupletKind
  deriving DecidableEq

def Edge.arrow (e : Edge) : Arrow := ⟨e.source.id, e.expression, e.target.id, e.target.kind⟩

def Declaration.arrow (d : Declaration) : Arrow :=
  ⟨d.input, Text.trim d.expression, d.output.id, d.output.kind⟩

namespace DecisionGraph

variable {description : String} {declared declared' : List Declaration} {g : DecisionGraph}
  {check : Bool}

/-! ## Arrows and ids -/

theorem length_ids (g : DecisionGraph) : g.ids.length = g.nodeCount := List.length_map _

theorem Declares.arrow_eq {couplets : List Couplet} {d : Declaration} {e : Edge}
    (h : Declares couplets d e) (hagree : Agree couplets) (hmem : d.output ∈ couplets) :
    e.arrow = d.arrow := by
  obtain ⟨htarget, hid⟩ := registered?_eq_some h.target
  rw [Edge.arrow, Declaration.arrow, h.source_id, h.expression, hid,
    hagree e.target htarget d.output hmem hid]

namespace IsDeclaredBy

variable (h : g.IsDeclaredBy description declared)
include h

theorem map_arrow : g.edges.map Edge.arrow = declared.map Declaration.arrow := by
  rw [← List.forall₂_eq_eq_eq, List.forall₂_map_left_iff, List.forall₂_map_right_iff]
  refine (forall₂_imp_of_mem (fun d hd e hde => ?_) h.edges).flip
  exact hde.arrow_eq h.agree (output_mem_described hd)

theorem nodup_ids : g.ids.Nodup := by
  rw [ids, h.couplets_eq, List.nodup_iff_pairwise_ne, List.pairwise_map]
  refine (pairwise_eraseDupsBy Couplet.same _).imp fun {a b} hab => ?_
  exact (beq_eq_false_iff_ne.mp hab).symm

theorem ids_perm {g' : DecisionGraph} (h' : g'.IsDeclaredBy description declared')
    (hperm : declared.Perm declared') : g.ids.Perm g'.ids := by
  refine (List.perm_ext_iff_of_nodup h.nodup_ids h'.nodup_ids).mpr fun id => ?_
  simp only [h.mem_ids_iff, h'.mem_ids_iff, hperm.mem_iff]

end IsDeclaredBy

/-! ## Declarations in another order -/

theorem described_perm (hperm : declared.Perm declared') :
    (described description declared).Perm (described description declared') :=
  (hperm.map Declaration.output).cons _

theorem connects_of_perm (hperm : declared.Perm declared') :
    Connects declared = Connects declared' := by
  funext a b
  simp only [Connects, hperm.mem_iff]

theorem WellDeclared.of_perm (h : WellDeclared description declared check)
    (hperm : declared.Perm declared') : WellDeclared description declared' check where
  agree := by
    intro a ha b hb
    exact h.agree a ((described_perm hperm).mem_iff.mpr ha) b
      ((described_perm hperm).mem_iff.mpr hb)
  branches := by
    intro d hd
    obtain ⟨⟨c, hc, hid⟩, hopen⟩ := h.branches d (hperm.mem_iff.mpr hd)
    refine ⟨⟨c, (described_perm hperm).mem_iff.mp hc, hid⟩, fun a ha => ?_⟩
    exact hopen a ((described_perm hperm).mem_iff.mpr ha)
  acyclic := by
    rw [← connects_of_perm hperm]
    exact h.acyclic
  reached := by
    intro d hd
    rw [← connects_of_perm hperm]
    exact h.reached d (hperm.mem_iff.mpr hd)

end DecisionGraph

end ClassificationKey
