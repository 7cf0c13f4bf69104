import ClassificationKey.Proofs.Graph.Declared
import ClassificationKey.Proofs.Text.Trim

/-!
# The declarations of a graph

A graph that was declared is declared again by its own edges, each describing its target as the
graph has it, and under any description of the root (`IsDeclaredBy.redescribe`). The couplets stay,
since it does not matter to them if each description is replaced by the first one of its id
(`distinct_map_firstDescribed`).
-/

namespace ClassificationKey

/-- The couplet, the root under another name. -/
def Couplet.redescribe (description : String) (c : Couplet) : Couplet :=
  if c.id = .root then { c with name := description } else c

@[simp] theorem Couplet.redescribe_id (description : String) (c : Couplet) :
    (c.redescribe description).id = c.id := by
  unfold redescribe
  split <;> rfl

@[simp] theorem Couplet.redescribe_kind (description : String) (c : Couplet) :
    (c.redescribe description).kind = c.kind := by
  unfold redescribe
  split <;> rfl

/-- The edge between the couplets under another description. -/
def Edge.redescribe (description : String) (e : Edge) : Edge :=
  { e with source := e.source.redescribe description, target := e.target.redescribe description }

/-- The declaration of an edge. -/
def Edge.toDeclaration (e : Edge) : Declaration := ⟨e.source.id, e.expression, e.target⟩

namespace DecisionGraph

/-- The graph under another description. -/
def redescribe (g : DecisionGraph) (description : String) : DecisionGraph where
  root := g.root.redescribe description
  others := g.others.map (Couplet.redescribe description)
  edges := g.edges.map (Edge.redescribe description)

theorem couplets_redescribe (g : DecisionGraph) (description : String) :
    (g.redescribe description).couplets = g.couplets.map (Couplet.redescribe description) :=
  rfl

/-- The declarations of the edges of a graph. -/
def declarations (g : DecisionGraph) : List Declaration := g.edges.map Edge.toDeclaration

/-! ## First descriptions -/

/-- The first description of the id of a couplet. -/
def firstDescribed (couplets : List Couplet) (c : Couplet) : Couplet :=
  (registered? couplets c.id).getD c

theorem id_firstDescribed (couplets : List Couplet) (c : Couplet) :
    (firstDescribed couplets c).id = c.id := by
  unfold firstDescribed
  cases hfirst : registered? couplets c.id with
  | none => rfl
  | some first => exact (registered?_eq_some hfirst).2

theorem registered?_append (couplets more : List Couplet) (id : CoupletId) :
    registered? (couplets ++ more) id = (registered? couplets id).or (registered? more id) :=
  List.find?_append

theorem firstDescribed_append {couplets : List Couplet} {c : Couplet} (hc : c ∈ couplets)
    (more : List Couplet) :
    firstDescribed (couplets ++ more) c = firstDescribed couplets c := by
  obtain ⟨first, hfirst⟩ := exists_registered?_eq_some ⟨c, hc, rfl⟩
  rw [firstDescribed, firstDescribed, registered?_append, hfirst]
  rfl

theorem firstDescribed_concat {couplets : List Couplet} {c : Couplet}
    (h : registered? couplets c.id = none) : firstDescribed (couplets ++ [c]) c = c := by
  rw [firstDescribed, registered?_append, h]
  simp [registered?]

/-- Descriptions may be replaced by the first ones of their ids. -/
theorem distinct_map_firstDescribed (couplets : List Couplet) :
    distinct (couplets.map (firstDescribed couplets)) = distinct couplets := by
  induction couplets using List.reverseRecOn with
  | nil => rfl
  | append_singleton couplets c ih =>
    have hbefore : couplets.map (firstDescribed (couplets ++ [c])) =
        couplets.map (firstDescribed couplets) :=
      List.map_congr_left fun a ha => firstDescribed_append ha [c]
    rw [List.map_append, List.map_singleton, hbefore, distinct_concat, distinct_concat, ih,
      id_firstDescribed, ← registered?_distinct, ih, registered?_distinct]
    cases hfirst : registered? couplets c.id with
    | some first => rfl
    | none => rw [firstDescribed_concat hfirst]

/-! ## The graph declared again -/

theorem registered?_map_redescribe (couplets : List Couplet) (description : String)
    (id : CoupletId) :
    registered? (couplets.map (Couplet.redescribe description)) id =
      (registered? couplets id).map (Couplet.redescribe description) := by
  rw [registered?, List.find?_map]
  congr 2
  funext c
  rw [Function.comp_apply, Couplet.redescribe_id]

namespace IsDeclaredBy

variable {g : DecisionGraph} {description : String} {declared : List Declaration}
  (h : g.IsDeclaredBy description declared)
include h

theorem registered?_couplets (id : CoupletId) :
    registered? g.couplets id = registered? (described description declared) id := by
  rw [h.couplets_eq, registered?_distinct]

theorem registered?_source {e : Edge} (he : e ∈ g.edges) :
    registered? g.couplets e.source.id = some e.source := by
  obtain ⟨d, -, hd⟩ := forall₂_exists_left h.edges e he
  rw [h.registered?_couplets, hd.source_id, hd.source]

theorem registered?_target {e : Edge} (he : e ∈ g.edges) :
    registered? g.couplets e.target.id = some e.target := by
  obtain ⟨d, -, hd⟩ := forall₂_exists_left h.edges e he
  rw [h.registered?_couplets, hd.target_id, hd.target]

theorem outputs_declarations :
    g.declarations.map Declaration.output =
      (declared.map Declaration.output).map (firstDescribed (described description declared)) := by
  have htargets : List.Forall₂ (fun d e => firstDescribed (described description declared)
      (Declaration.output d) = Edge.target e) declared g.edges := by
    refine h.edges.imp fun d e hde => ?_
    rw [firstDescribed, hde.target, Option.getD_some]
  have hmap : declared.map (fun d => firstDescribed (described description declared) d.output) =
      g.edges.map Edge.target := by
    rwa [← List.forall₂_eq_eq_eq, List.forall₂_map_left_iff, List.forall₂_map_right_iff]
  rw [declarations, List.map_map, List.map_map]
  exact hmap.symm

theorem distinct_described_declarations :
    distinct (described description g.declarations) = g.couplets := by
  have hroot : firstDescribed (described description declared) (rootOf description) =
      rootOf description := by
    simp [firstDescribed, described, registered?]
  have hfirst : described description g.declarations =
      (described description declared).map (firstDescribed (described description declared)) := by
    conv_rhs => rw [described, List.map_cons, ← described, hroot]
    rw [described, h.outputs_declarations]
  rw [hfirst, distinct_map_firstDescribed, h.couplets_eq]

theorem redescribe_of_mem_others {c : Couplet} (hc : c ∈ g.others) (other : String) :
    c.redescribe other = c := by
  rw [h.others_eq] at hc
  have hid := (List.mem_filter.mp (mem_of_mem_distinct hc)).2
  exact if_neg (of_decide_eq_true hid)

theorem distinct_described_redescribe (other : String) :
    distinct (described other g.declarations) = (g.redescribe other).couplets := by
  have hcouplets := h.distinct_described_declarations
  rw [distinct_described] at hcouplets
  have hothers := (List.cons.inj hcouplets).2
  have hsame : g.others.map (Couplet.redescribe other) = g.others :=
    (List.map_congr_left fun c hc => h.redescribe_of_mem_others hc other).trans (List.map_id _)
  rw [distinct_described, hothers, couplets, redescribe, hsame, h.root_eq]
  rfl

theorem registered?_described_redescribe (other : String) {id : CoupletId} {c : Couplet}
    (hc : registered? g.couplets id = some c) :
    registered? (described other g.declarations) id = some (c.redescribe other) := by
  rw [← registered?_distinct, h.distinct_described_redescribe, couplets_redescribe,
    registered?_map_redescribe, hc]
  rfl

/-- What is described again has a kind that was described. -/
theorem exists_described {other : String} {c : Couplet} (hc : c ∈ described other g.declarations) :
    ∃ a ∈ described description declared, a.id = c.id ∧ a.kind = c.kind := by
  rcases List.mem_cons.mp hc with rfl | hc
  · exact ⟨rootOf description, List.mem_cons_self, rfl, rfl⟩
  · obtain ⟨d, hd, rfl⟩ := List.mem_map.mp hc
    obtain ⟨e, he, rfl⟩ := List.mem_map.mp hd
    have hmem := (registered?_eq_some (h.registered?_target he)).1
    rw [h.couplets_eq] at hmem
    exact ⟨e.target, mem_of_mem_distinct hmem, rfl, rfl⟩

theorem redescribe (other : String) :
    (g.redescribe other).IsDeclaredBy other g.declarations where
  agree := by
    intro a ha b hb hid
    obtain ⟨a', ha', haid, hakind⟩ := h.exists_described ha
    obtain ⟨b', hb', hbid, hbkind⟩ := h.exists_described hb
    rw [← hakind, ← hbkind]
    exact h.agree a' ha' b' hb' (haid.trans (hid.trans hbid.symm))
  couplets_eq := (h.distinct_described_redescribe other).symm
  edges := by
    have hedge : ∀ e ∈ g.edges, Declares (described other g.declarations) e.toDeclaration
        (e.redescribe other) := by
      intro e he
      obtain ⟨d, -, hd⟩ := forall₂_exists_left h.edges e he
      refine ⟨h.registered?_described_redescribe other (h.registered?_source he), ?_,
        h.registered?_described_redescribe other (h.registered?_target he), ?_⟩
      · rw [Couplet.isTerminal, Edge.redescribe, Couplet.redescribe_kind]
        exact hd.not_terminal
      · have htrimmed : Text.trim e.expression = e.expression := by
          rw [hd.expression, Text.trim_trim]
        exact htrimmed.symm
    rw [declarations, DecisionGraph.redescribe, List.forall₂_map_left_iff,
      List.forall₂_map_right_iff, List.forall₂_same]
    exact hedge

theorem connects_declarations : Connects g.declarations = Connects declared := by
  have hredescribed := (h.redescribe description).joins_eq
  rw [← hredescribed, ← h.joins_eq]
  funext a b
  simp [Joins, DecisionGraph.redescribe, Edge.redescribe]

end IsDeclaredBy

end DecisionGraph

end ClassificationKey
