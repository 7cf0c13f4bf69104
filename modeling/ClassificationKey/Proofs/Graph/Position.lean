import ClassificationKey.Proofs.Graph.Indexed

/-!
# What an indexed graph consists of, and what is read from it

Read by position, an indexed graph is the graph that it represents: its edges, its couplets by id
and the edges that leave a couplet (`Represents.toGraph_eq`, `couplet?_eq`, `children_eq`).
`Invariant` says how the lists and the index of a built graph follow from its declarations. A
traversal only comes to positions of couplets (`Represents.lt_length_of_visited`), so its accesses
never fail.
-/

namespace ClassificationKey.IndexedGraph

open Relation DecisionGraph

variable {t : IndexedGraph} {g : DecisionGraph} {description : String} {declared : List Declaration}

/-! ## Reading -/

theorem forall₂_numbersFrom (edges : List PlacedEdge) (n : Nat) :
    List.Forall₂ (fun i e => fetch edges i = .ok e) (numbersFrom edges n)
      (edges.filter fun e => e.source = n) := by
  induction edges using List.reverseRecOn with
  | nil => exact .nil
  | append_singleton edges e ih =>
    have hbefore := ih.imp fun i a h => fetch_append h [e]
    rw [numbersFrom_concat, List.filter_append]
    by_cases hn : e.source = n
    · have hlast : fetch (edges ++ [e]) edges.length = .ok e :=
        fetch_eq_ok_iff.mpr List.getElem?_concat_length
      have hmem : decide (e.source = n) = true := decide_eq_true hn
      rw [if_pos hn, List.filter_singleton, hmem]
      exact List.rel_append hbefore (.cons hlast .nil)
    · have hmem : decide (e.source = n) = false := decide_eq_false hn
      rw [if_neg hn, List.filter_singleton, hmem, cond_false, List.append_nil]
      exact hbefore

theorem view_eq {p : PlacedEdge} {e : Edge} (hp : Places t.couplets p e) : t.view p = .ok e := by
  simp only [view, fetch_eq_pure hp.source, fetch_eq_pure hp.target, pure_bind]
  exact congrArg Except.ok (Edge.ext rfl rfl hp.expression)

namespace Represents

variable (h : Represents t g)
include h

theorem edgeViews_eq : t.edgeViews = .ok g.edges :=
  mapM_eq_ok_iff.mpr (h.edges.imp fun _ _ hp => view_eq hp)

theorem toGraph_eq : t.toGraph = .ok g := by
  have hedges : t.edgeViews = pure g.edges := h.edgeViews_eq
  simp only [toGraph, hedges, pure_bind, h.couplets]
  rfl

theorem couplet?_eq (id : CoupletId) : t.couplet? id = .ok (g.couplet? id) := by
  have hregistered : g.couplet? id = registered? t.couplets id := by
    rw [h.couplets]
    rfl
  rw [couplet?, hregistered]
  cases hn : t.index[id]? with
  | none =>
    rw [h.index.registered?_eq_none hn]
    rfl
  | some n =>
    obtain ⟨c, hc, hfirst⟩ := h.index.exists_registered? hn
    rw [hfirst]
    simp only [fetch_eq_pure hc, pure_bind]
    rfl

theorem leaving_eq {n : Nat} (hn : n < t.couplets.length) :
    t.leaving n = .ok (t.edges.filter fun e => e.source = n) := by
  rw [leaving, fetch_eq_pure (h.outgoing n hn), pure_bind]
  exact mapM_eq_ok_iff.mpr (forall₂_numbersFrom t.edges n)

/-- The edge leaves the position of an id exactly when its source has the id. -/
theorem source_eq_iff {id : CoupletId} {n : Nat} (hn : t.index[id]? = some n) {p : PlacedEdge}
    {e : Edge} (hp : Places t.couplets p e) : p.source = n ↔ e.source.id = id := by
  constructor
  · rintro rfl
    obtain ⟨c, hc, hid⟩ := (h.index id p.source).mp hn
    rw [hp.source, Option.some.injEq] at hc
    rw [hc, hid]
  · intro hid
    have hsource := (h.index id p.source).mpr ⟨e.source, hp.source, hid⟩
    rw [hn, Option.some.injEq] at hsource
    exact hsource.symm

/-- The edges that leave the position of an id are the children of the id. -/
theorem views_leaving {id : CoupletId} {n : Nat} (hn : t.index[id]? = some n) :
    (t.edges.filter fun e => e.source = n).mapM t.view = .ok (g.children id) := by
  have hfilter : List.Forall₂ (Places t.couplets) (t.edges.filter fun p => p.source = n)
      (g.children id) := by
    refine List.rel_filter (fun p e hp => ?_) h.edges
    simpa using h.source_eq_iff hn hp
  exact mapM_eq_ok_iff.mpr (hfilter.imp fun _ _ hp => view_eq hp)

theorem children_eq (id : CoupletId) : t.children id = .ok (g.children id) := by
  rw [children]
  cases hn : t.index[id]? with
  | none =>
    have hnil : g.children id = [] := by
      refine List.filter_eq_nil_iff.mpr fun e he hid => ?_
      obtain ⟨p, -, hp⟩ := forall₂_exists_left h.edges e he
      have hsome := (h.index id p.source).mpr ⟨e.source, hp.source, eq_of_beq hid⟩
      rw [hn] at hsome
      cases hsome
    rw [hnil]
    rfl
  | some n =>
    have hleaving : t.leaving n = pure _ := h.leaving_eq (h.index.lt_length hn)
    simp only [hleaving, pure_bind]
    exact h.views_leaving hn

end Represents

/-! ## The invariant -/

/-- An edge leads from the one position to the other. -/
def Leads (t : IndexedGraph) (m n : Nat) : Prop := ∃ e ∈ t.edges, e.source = m ∧ e.target = n

/-- The placed edge is that of the declaration: its ends are the positions of the declared ids, and
its text is trimmed and compiled. -/
structure IsPlaced (t : IndexedGraph) (d : Declaration) (e : PlacedEdge) : Prop where
  source : t.index[d.input]? = some e.source
  target : t.index[d.output.id]? = some e.target
  expression : e.expression = Text.trim d.expression
  guard : e.guard = Guard.compile (Text.trim d.expression)

/-- What an indexed graph consists of that was built from declarations. -/
structure Invariant (t : IndexedGraph) (description : String) (declared : List Declaration) :
    Prop where
  /-- The root comes first, and then of the outputs with one id the first. -/
  couplets : t.couplets = rootOf description ::
    ((declared.map Declaration.output).filter fun c => c.id ≠ .root).eraseDupsBy Couplet.same
  index : Indexes t.index t.couplets
  edges : List.Forall₂ t.IsPlaced declared t.edges
  length : t.outgoing.length = t.couplets.length
  /-- The edges that leave a couplet are listed in ascending order. -/
  outgoing : ∀ n < t.couplets.length, t.outgoing[n]? = some (numbersFrom t.edges n)
  /-- No edge leaves a class. -/
  terminal : ∀ (n : Nat) (c : Couplet), t.couplets[n]? = some c → c.isTerminal = true →
    t.outgoing[n]? = some []
  reached : ∀ n < t.couplets.length, ReflTransGen t.Leads 0 n

namespace Represents

variable (h : Represents t g) (hg : g.IsDeclaredBy description declared)
include h hg

theorem isPlaced_edges : List.Forall₂ t.IsPlaced declared t.edges := by
  refine (forall₂_comp hg.edges h.edges).imp ?_
  rintro d p ⟨e, hd, hp⟩
  have hexpression := hp.expression.trans hd.expression
  refine ⟨?_, ?_, hexpression, hexpression ▸ p.guard_eq⟩
  · exact (h.index d.input p.source).mpr ⟨e.source, hp.source, hd.source_id⟩
  · exact (h.index d.output.id p.target).mpr ⟨e.target, hp.target, hd.target_id⟩

theorem isTerminal_of_mem {p : PlacedEdge} (hp : p ∈ t.edges) {c : Couplet}
    (hc : t.couplets[p.source]? = some c) : c.isTerminal = false := by
  obtain ⟨e, he, hpe⟩ := forall₂_exists_right h.edges p hp
  obtain ⟨d, -, hd⟩ := forall₂_exists_left hg.edges e he
  rw [hpe.source, Option.some.injEq] at hc
  exact hc ▸ hd.not_terminal

theorem numbersFrom_of_isTerminal {n : Nat} {c : Couplet} (hc : t.couplets[n]? = some c)
    (hterminal : c.isTerminal = true) : numbersFrom t.edges n = [] := by
  refine List.filter_eq_nil_iff.mpr fun i _ hi => ?_
  obtain ⟨p, hp, rfl⟩ := Option.map_eq_some_iff.mp (of_decide_eq_true hi)
  rw [h.isTerminal_of_mem hg (List.mem_of_getElem? hp) hc] at hterminal
  cases hterminal

/-- Where the declarations lead among the ids, the edges lead among their positions. -/
theorem leads_of_connects {a b : CoupletId} (hab : Connects declared a b) {n : Nat}
    (hn : t.index[b]? = some n) : ∃ m, t.index[a]? = some m ∧ t.Leads m n := by
  obtain ⟨d, hd, rfl, rfl⟩ := hab
  obtain ⟨p, hp, hplaced⟩ := forall₂_exists_right (h.isPlaced_edges hg) d hd
  have htarget := hplaced.target
  rw [hn, Option.some.injEq] at htarget
  exact ⟨p.source, hplaced.source, p, hp, rfl, htarget.symm⟩

theorem reflTransGen_leads {id : CoupletId} (hid : ReflTransGen (Connects declared) .root id)
    {n : Nat} (hn : t.index[id]? = some n) : ReflTransGen t.Leads 0 n := by
  induction hid generalizing n with
  | refl =>
    have hroot : t.couplets[0]? = some (rootOf description) := by
      rw [h.couplets, ← hg.root_eq]
      rfl
    have hzero := (h.index .root 0).mpr ⟨_, hroot, rfl⟩
    rw [hn, Option.some.injEq] at hzero
    rw [hzero]
  | tail _ hlast ih =>
    obtain ⟨m, hm, hmn⟩ := h.leads_of_connects hg hlast hn
    exact (ih hm).tail hmn

theorem invariant (hreach : g.checkReach = .ok ()) : t.Invariant description declared where
  couplets := by
    rw [h.couplets, hg.couplets_eq, distinct_described]
    rfl
  index := h.index
  edges := h.isPlaced_edges hg
  length := h.length
  outgoing := h.outgoing
  terminal := by
    intro n c hc hterminal
    have hn := (List.getElem?_eq_some_iff.mp hc).1
    rw [h.outgoing n hn, h.numbersFrom_of_isTerminal hg hc hterminal]
  reached := by
    intro n hn
    have hc := List.getElem?_eq_getElem hn
    have hindex := (h.index _ n).mpr ⟨_, hc, rfl⟩
    refine h.reflTransGen_leads hg ?_ hindex
    -- the couplet is the root or the output of a declaration
    have hid : t.couplets[n].id ∈ g.ids := by
      rw [ids, ← h.couplets]
      exact List.mem_map_of_mem (List.getElem_mem hn)
    rcases hg.mem_ids_iff.mp hid with hroot | ⟨d, hd, houtput⟩
    · rw [hroot]
    · rw [← houtput]
      exact (checkReach_eq_ok_iff hg).mp hreach d hd

end Represents

/-! ## Traversals -/

/-- The positions that a traversal comes to. A classification and the check of reachability start at
the root, the search for cycles at every couplet in turn; all go on along the edges that leave a
position. -/
inductive Visited (t : IndexedGraph) : Nat → Prop where
  | start {n : Nat} (h : n < t.couplets.length) : Visited t n
  | along {n : Nat} {es : List PlacedEdge} {e : PlacedEdge} (h : Visited t n)
      (hleaving : t.leaving n = .ok es) (he : e ∈ es) : Visited t e.target

/-- What is looked up at the position is there: the couplet, and the edges that leave it with the
couplets at their ends. These are its children in the graph. -/
def InRange (t : IndexedGraph) (g : DecisionGraph) (n : Nat) : Prop :=
  ∃ c es, fetch t.couplets n = .ok c ∧ t.leaving n = .ok es ∧
    es.mapM t.view = .ok (g.children c.id)

namespace Represents

variable (h : Represents t g)
include h

theorem mem_edges_of_leaving {n : Nat} (hn : n < t.couplets.length) {es : List PlacedEdge}
    (hes : t.leaving n = .ok es) : ∀ e ∈ es, e ∈ t.edges := by
  rw [h.leaving_eq hn, Except.ok.injEq] at hes
  rintro e he
  rw [← hes] at he
  exact (List.mem_filter.mp he).1

/-- A traversal does not leave the couplets. -/
theorem lt_length_of_visited {n : Nat} (hn : t.Visited n) : n < t.couplets.length := by
  induction hn with
  | start hn => exact hn
  | along _ hleaving he ih =>
    have hmem := h.mem_edges_of_leaving ih hleaving _ he
    obtain ⟨v, -, hv⟩ := forall₂_exists_right h.edges _ hmem
    exact (List.getElem?_eq_some_iff.mp hv.target).1

theorem inRange_of_visited {n : Nat} (hn : t.Visited n) : t.InRange g n := by
  have hlt := h.lt_length_of_visited hn
  have hc : t.couplets[n]? = some t.couplets[n] := List.getElem?_eq_getElem hlt
  have hindex := (h.index t.couplets[n].id n).mpr ⟨t.couplets[n], hc, rfl⟩
  exact ⟨t.couplets[n], _, fetch_eq_ok_iff.mpr hc, h.leaving_eq hlt, h.views_leaving hindex⟩

end Represents

/-- A graph that is assembled is built by position too, and the representation has its invariant:
read by position it is the graph, and no access of a traversal is out of range. -/
theorem representation_of_assemble {check : Bool}
    {locate : Nat → DefinitionError → DefinitionError}
    (h : assemble description declared check locate = .ok g) :
    ∃ t, link description declared locate = .ok t ∧ t.Invariant description declared ∧
      t.toGraph = .ok g ∧ t.edgeViews = .ok g.edges ∧
      (∀ id, t.couplet? id = .ok (g.couplet? id)) ∧
      (∀ id, t.children id = .ok (g.edges.filter fun e => e.source.id == id)) ∧
      ∀ n, t.Visited n → t.InRange g n := by
  obtain ⟨hlink, -, hreach⟩ := assemble_eq_ok_iff.mp h
  have hsimulates := simulates_link description declared locate
  rw [hlink] at hsimulates
  obtain ⟨t, ht, hrepresents⟩ := hsimulates.exists_of_eq_ok
  have hg := link_eq_ok_iff_isDeclaredBy.mp hlink
  exact ⟨t, ht, hrepresents.invariant hg hreach, hrepresents.toGraph_eq, hrepresents.edgeViews_eq,
    hrepresents.couplet?_eq, hrepresents.children_eq, fun n => hrepresents.inRange_of_visited⟩

/-- A class that is declared twice, before the question that leads to it. -/
def scattered : List Declaration :=
  [⟨.text "Q", "1", ⟨.number 7, .terminal, "Leaf", ""⟩⟩,
    ⟨.number 0, " not 1 ", ⟨.number 7, .terminal, "Foliage", "redeclared"⟩⟩,
    ⟨.number 0, "1", ⟨.text "Q", .branch, "Margin", ""⟩⟩]

theorem representation_of_scattered :
    ∃ g, assemble "Leaves" scattered false (fun _ e => e) = .ok g ∧
      ∃ t, link "Leaves" scattered (fun _ e => e) = .ok t ∧ t.toGraph = .ok g ∧
        t.Invariant "Leaves" scattered := by
  have hg : ∃ g, assemble "Leaves" scattered false (fun _ e => e) = .ok g := ⟨_, rfl⟩
  obtain ⟨g, hg⟩ := hg
  obtain ⟨t, ht, hinvariant, hgraph, -⟩ := representation_of_assemble hg
  exact ⟨g, hg, t, ht, hgraph, hinvariant⟩

end ClassificationKey.IndexedGraph
