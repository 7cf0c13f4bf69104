import ClassificationKey.Graph.Indexed
import ClassificationKey.Proofs.Graph.Declared
import ClassificationKey.Proofs.Simulation

/-!
# The representation by position

`Represents` relates an indexed graph to the graph that it is by position. Registering an output and
placing an edge keep to the steps that build the latter (`Registers.register`, `Wired.place`), so
the declarations make an indexed graph exactly when they make a graph, which it represents
(`simulates_link`). Read by position, with every access in range, it is that graph again.
-/

namespace ClassificationKey

theorem fetch_eq_ok_iff {α : Type} {as : List α} {n : Nat} {a : α} :
    fetch as n = .ok a ↔ as[n]? = some a := by
  unfold fetch
  cases as[n]? <;> simp

theorem fetch_eq_pure {α : Type} {as : List α} {n : Nat} {a : α} (h : as[n]? = some a) :
    fetch as n = pure a :=
  fetch_eq_ok_iff.mpr h

theorem fetch_append {α : Type} {as : List α} {n : Nat} {a : α} (h : fetch as n = .ok a)
    (bs : List α) : fetch (as ++ bs) n = .ok a := by
  rw [fetch_eq_ok_iff] at h ⊢
  rw [List.getElem?_append_left (List.getElem?_eq_some_iff.mp h).1, h]

/-- The fault is the refusal for that error. -/
def Refuses (e : DefinitionError) (f : Fault) : Prop := f = .refused e

namespace IndexedGraph

open DecisionGraph

/-! ## The index -/

/-- The index has the ids of the couplets, each with its position, and nothing else. -/
def Indexes (index : Std.HashMap CoupletId Nat) (couplets : List Couplet) : Prop :=
  ∀ id n, index[id]? = some n ↔ ∃ c : Couplet, couplets[n]? = some c ∧ c.id = id

namespace Indexes

variable {index : Std.HashMap CoupletId Nat} {couplets : List Couplet} (h : Indexes index couplets)
include h

theorem exists_registered? {id : CoupletId} {n : Nat} (hn : index[id]? = some n) :
    ∃ c, couplets[n]? = some c ∧ registered? couplets id = some c := by
  obtain ⟨c, hc, hid⟩ := (h id n).mp hn
  obtain ⟨first, hfirst⟩ := exists_registered?_eq_some ⟨c, List.mem_of_getElem? hc, hid⟩
  obtain ⟨hmem, hfirstid⟩ := registered?_eq_some hfirst
  obtain ⟨m, hm⟩ := List.mem_iff_getElem?.mp hmem
  -- the index has one position for the id
  have hmn := (h id m).mpr ⟨first, hm, hfirstid⟩
  rw [hn, Option.some.injEq] at hmn
  exact ⟨first, hmn ▸ hm, hfirst⟩

theorem registered?_eq_none {id : CoupletId} (hn : index[id]? = none) :
    registered? couplets id = none := by
  rw [registered?_eq_none_iff]
  intro c hc hid
  obtain ⟨m, hm⟩ := List.mem_iff_getElem?.mp hc
  rw [(h id m).mpr ⟨c, hm, hid⟩] at hn
  cases hn

theorem lt_length {id : CoupletId} {n : Nat} (hn : index[id]? = some n) : n < couplets.length := by
  obtain ⟨c, hc, -⟩ := (h id n).mp hn
  exact (List.getElem?_eq_some_iff.mp hc).1

/-- A new couplet comes last, and its id is indexed with its position. -/
theorem concat {c : Couplet} (hnew : index[c.id]? = none) :
    Indexes (index.insert c.id couplets.length) (couplets ++ [c]) := by
  intro id n
  rw [Std.HashMap.getElem?_insert]
  constructor
  · intro hn
    split at hn
    · next hid =>
      cases hn
      exact ⟨c, List.getElem?_concat_length, eq_of_beq hid⟩
    · obtain ⟨a, ha, hid⟩ := (h id n).mp hn
      exact ⟨a, by rw [List.getElem?_append_left (h.lt_length hn), ha], hid⟩
  · rintro ⟨a, ha, hid⟩
    by_cases hn : n < couplets.length
    · rw [List.getElem?_append_left hn] at ha
      have hold := (h id n).mpr ⟨a, ha, hid⟩
      rw [if_neg, hold]
      rintro hsame
      rw [eq_of_beq hsame, hold] at hnew
      cases hnew
    · have hlt := (List.getElem?_eq_some_iff.mp ha).1
      rw [List.length_append, List.length_singleton] at hlt
      have hlast : n = couplets.length := by omega
      rw [hlast, List.getElem?_concat_length] at ha
      cases ha
      rw [hid, hlast, if_pos (beq_self_eq_true id)]

end Indexes

theorem indexes_singleton (c : Couplet) :
    Indexes ((∅ : Std.HashMap CoupletId Nat).insert c.id 0) [c] := by
  have hempty : Indexes ∅ [] := by
    intro id n
    simp
  exact hempty.concat Std.HashMap.getElem?_empty

/-! ## Registration -/

variable {description : String} {declared : List Declaration} {couplets : List Couplet}
  {r : Registry}

/-- The registry holds the couplets that were registered for the declarations `done`. -/
structure Registers (description : String) (done : List Declaration) (couplets : List Couplet)
    (r : Registry) : Prop where
  couplets_eq : r.couplets = couplets
  head : couplets.head? = some (rootOf description)
  index : Indexes r.index couplets
  targets : List.Forall₂ (fun d n => r.index[d.output.id]? = some n) done r.targets

theorem Registers.start (description : String) :
    Registers description [] [rootOf description] (.start description) where
  couplets_eq := rfl
  head := rfl
  index := indexes_singleton (rootOf description)
  targets := .nil

theorem Registers.register {done : List Declaration} (h : Registers description done couplets r)
    (d : Declaration) :
    Simulates Refuses (Registers description (done ++ [d])) (DecisionGraph.register couplets d)
      (r.register d) := by
  rw [DecisionGraph.register, Registry.register, h.couplets_eq]
  cases hn : r.index[d.output.id]? with
  | some n =>
    obtain ⟨first, hfirst, hregistered⟩ := h.index.exists_registered? hn
    rw [hregistered]
    simp only [fetch_eq_pure hfirst, pure_bind]
    by_cases hkind : first.kind = d.output.kind
    · simp only [if_pos hkind]
      exact .ok ⟨rfl, h.head, h.index, List.rel_append h.targets (.cons hn .nil)⟩
    · simp only [if_neg hkind]
      exact .error rfl
  | none =>
    rw [h.index.registered?_eq_none hn]
    have hhead : (couplets ++ [d.output]).head? = some (rootOf description) := by
      rw [List.head?_append, h.head]
      rfl
    refine .ok ⟨rfl, hhead, h.index.concat hn, List.rel_append (h.targets.imp ?_) (.cons ?_ .nil)⟩
    · intro a m ha
      rw [Std.HashMap.getElem?_insert, if_neg, ha]
      intro hsame
      rw [eq_of_beq hsame, ha] at hn
      cases hn
    · exact Std.HashMap.getElem?_insert_self

/-! ## Edges -/

/-- The positions of the edges with the given source, in ascending order. -/
def numbersFrom (edges : List PlacedEdge) (n : Nat) : List Nat :=
  (List.range edges.length).filter fun i => edges[i]?.map PlacedEdge.source = some n

theorem numbersFrom_concat (edges : List PlacedEdge) (e : PlacedEdge) (n : Nat) :
    numbersFrom (edges ++ [e]) n =
      if e.source = n then numbersFrom edges n ++ [edges.length] else numbersFrom edges n := by
  have hbefore : (List.range edges.length).filter
        (fun i => (edges ++ [e])[i]?.map PlacedEdge.source = some n) = numbersFrom edges n := by
    refine List.filter_congr fun i hi => ?_
    rw [List.getElem?_append_left (List.mem_range.mp hi)]
  rw [numbersFrom, List.length_append, List.length_singleton, List.range_succ, List.filter_append,
    hbefore]
  by_cases hn : e.source = n <;> simp [hn]

/-- The placed edge is the edge, its ends given by position. -/
structure Places (couplets : List Couplet) (p : PlacedEdge) (e : Edge) : Prop where
  source : couplets[p.source]? = some e.source
  target : couplets[p.target]? = some e.target
  expression : p.expression = e.expression

/-- The edges have been placed, and their positions listed by source. -/
structure Wired (couplets : List Couplet) (edges : List Edge) (w : Wiring) : Prop where
  edges : List.Forall₂ (Places couplets) w.edges edges
  length : w.outgoing.length = couplets.length
  outgoing : ∀ n < couplets.length, w.outgoing[n]? = some (numbersFrom w.edges n)

theorem Wired.start (couplets : List Couplet) :
    Wired couplets [] ⟨[], List.replicate couplets.length []⟩ where
  edges := .nil
  length := List.length_replicate
  outgoing := fun n hn => by rw [List.getElem?_replicate, if_pos hn]; rfl

theorem Wired.place {done : List Declaration} (hr : Registers description done couplets r)
    {edges : List Edge} {w : Wiring} (h : Wired couplets edges w) {d : Declaration} {target : Nat}
    (htarget : r.index[d.output.id]? = some target) :
    Simulates Refuses (fun e w' => Wired couplets (edges ++ [e]) w') (resolve couplets d)
      (w.place r d target) := by
  rw [resolve, Wiring.place, hr.couplets_eq]
  cases hn : r.index[d.input]? with
  | none =>
    rw [hr.index.registered?_eq_none hn]
    exact .error rfl
  | some n =>
    obtain ⟨source, hsource, hinput⟩ := hr.index.exists_registered? hn
    obtain ⟨output, houtput, hregistered⟩ := hr.index.exists_registered? htarget
    have hlt := hr.index.lt_length hn
    rw [hinput, hregistered]
    simp only [fetch_eq_pure hsource, fetch_eq_pure (h.outgoing n hlt), pure_bind]
    cases hterminal : source.isTerminal with
    | true => exact .error rfl
    | false =>
      refine .ok ⟨List.rel_append h.edges (.cons ⟨hsource, houtput, rfl⟩ .nil), ?_, fun m hm => ?_⟩
      · rw [List.length_set, h.length]
      · rw [List.getElem?_set, numbersFrom_concat]
        by_cases hnm : n = m
        · subst hnm
          simp [h.length, hlt]
        · simp [hnm, h.outgoing m hm]

/-! ## The graph that is represented -/

/-- The indexed graph is the graph, by position. -/
structure Represents (t : IndexedGraph) (g : DecisionGraph) : Prop where
  couplets : t.couplets = g.couplets
  index : Indexes t.index t.couplets
  edges : List.Forall₂ (Places t.couplets) t.edges g.edges
  length : t.outgoing.length = t.couplets.length
  outgoing : ∀ n < t.couplets.length, t.outgoing[n]? = some (numbersFrom t.edges n)

/-- The declarations are linked by position as they are without. -/
theorem simulates_link (description : String) (declared : List Declaration)
    (locate : Nat → DefinitionError → DefinitionError) :
    Simulates Refuses (fun g t => Represents t g) (DecisionGraph.link description declared locate)
      (link description declared locate) := by
  have hlocate (i : Nat) (e : DefinitionError) (f : Fault) (h : Refuses e f) :
      Refuses (locate i e) (f.map (locate i)) := by
    rw [Refuses, h]
    rfl
  refine (simulates_foldNumbered (fun done i d _ _ h => (h.register d).mapError (hlocate i))
    (Registers.start description)).bind fun couplets r hr => ?_
  have hplace : ∀ i d (p : Declaration × Nat) edges w,
      (p.1 = d ∧ r.index[d.output.id]? = some p.2) → Wired couplets edges w →
      Simulates Refuses (fun e w' => Wired couplets (edges ++ [e]) w')
        ((resolve couplets d).mapError (locate i))
        ((w.place r p.1 p.2).mapError (Fault.map (locate i))) := by
    rintro i d p edges w ⟨rfl, htarget⟩ hw
    exact (Wired.place hr hw htarget).mapError (hlocate i)
  have hstart : Wired couplets [] ⟨[], List.replicate r.couplets.length []⟩ := by
    rw [hr.couplets_eq]
    exact Wired.start couplets
  refine (simulates_mapNumbered_foldNumbered hplace (forall₂_zip hr.targets) hstart).bind
    fun edges w hw => .ok ?_
  -- the root has stayed the first couplet
  have hcouplets : r.couplets = rootOf description :: couplets.tail := by
    rw [hr.couplets_eq, List.cons_head?_tail hr.head]
  have hindex := hr.index
  rw [← hr.couplets_eq] at hindex hw
  exact ⟨hcouplets, hindex, hw.edges, hw.length, hw.outgoing⟩

end IndexedGraph

end ClassificationKey
