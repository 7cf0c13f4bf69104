import ClassificationKey.Graph.Table
import ClassificationKey.Proofs.Row

/-!
# Graphs that construction returns

`link_eq_ok_iff` says what a linked graph is made of: the outputs registered one after the other, and
each declaration's edge between registered couplets. `Linked` is what follows for the graph alone: its
edges join couplets of the graph. `Built` are the graphs that construction returns, from a table or
from declarations.
-/

namespace ClassificationKey.DecisionGraph

/-! ## Registration -/

theorem registered?_eq_some {couplets : List Couplet} {id : CoupletId} {c : Couplet}
    (h : registered? couplets id = some c) : c ∈ couplets ∧ c.id = id :=
  ⟨List.mem_of_find?_eq_some h, by simpa using List.find?_some h⟩

theorem isSome_registered?_iff {couplets : List Couplet} {id : CoupletId} :
    (registered? couplets id).isSome ↔ ∃ c ∈ couplets, c.id = id := by
  simp [registered?]

theorem exists_registered?_eq_some {couplets : List Couplet} {id : CoupletId}
    (h : ∃ c ∈ couplets, c.id = id) : ∃ first, registered? couplets id = some first :=
  Option.isSome_iff_exists.mp (isSome_registered?_iff.mpr h)

theorem registered?_eq_none_iff {couplets : List Couplet} {id : CoupletId} :
    registered? couplets id = none ↔ ∀ c ∈ couplets, c.id ≠ id := by
  simp [registered?]

/-- An output either is new and comes last, or agrees in kind with the couplet that has its id. -/
theorem register_eq_ok {couplets after : List Couplet} {d : Declaration}
    (h : register couplets d = .ok after) :
    (registered? couplets d.output.id = none ∧ after = couplets ++ [d.output]) ∨
      ∃ first, registered? couplets d.output.id = some first ∧ first.kind = d.output.kind ∧
        after = couplets := by
  unfold register at h
  split at h
  · next hnone =>
    cases h
    exact .inl ⟨hnone, rfl⟩
  · next first hsome =>
    split at h
    · next hkind =>
      cases h
      exact .inr ⟨first, hsome, hkind, rfl⟩
    · cases h

theorem prefix_of_register {couplets after : List Couplet} {d : Declaration}
    (h : register couplets d = .ok after) : couplets <+: after := by
  rcases register_eq_ok h with ⟨-, rfl⟩ | ⟨_, -, -, rfl⟩
  · exact List.prefix_append _ _
  · exact List.prefix_refl _

theorem mem_ids_of_register {couplets after : List Couplet} {d : Declaration}
    (h : register couplets d = .ok after) : ∃ c ∈ after, c.id = d.output.id := by
  rcases register_eq_ok h with ⟨-, rfl⟩ | ⟨first, hfirst, -, rfl⟩
  · exact ⟨d.output, by simp, rfl⟩
  · exact ⟨first, registered?_eq_some hfirst⟩

theorem prefix_of_foldlM_register {declared : List Declaration} {couplets after : List Couplet}
    (h : declared.foldlM register couplets = .ok after) : couplets <+: after := by
  induction declared generalizing couplets with
  | nil =>
    cases h
    exact List.prefix_refl _
  | cons d declared ih =>
    rw [List.foldlM_cons, bind_eq_ok_iff] at h
    obtain ⟨between, hd, h⟩ := h
    exact (prefix_of_register hd).trans (ih h)

theorem mem_ids_of_foldlM_register {declared : List Declaration} {couplets after : List Couplet}
    (h : declared.foldlM register couplets = .ok after) :
    ∀ d ∈ declared, ∃ c ∈ after, c.id = d.output.id := by
  induction declared generalizing couplets with
  | nil => exact fun d hd => absurd hd List.not_mem_nil
  | cons d declared ih =>
    rw [List.foldlM_cons, bind_eq_ok_iff] at h
    obtain ⟨between, hd, h⟩ := h
    refine List.forall_mem_cons.mpr ⟨?_, ih h⟩
    obtain ⟨c, hc, hid⟩ := mem_ids_of_register hd
    exact ⟨c, (prefix_of_foldlM_register h).subset hc, hid⟩

/-! ## Edges -/

/-- The edge of a declaration leaves the registered couplet of its input, which is no class. -/
theorem resolve_eq_ok {couplets : List Couplet} {d : Declaration} {e : Edge}
    (h : resolve couplets d = .ok e) :
    registered? couplets d.input = some e.source ∧ e.source.isTerminal = false ∧
      e.target = (registered? couplets d.output.id).getD d.output ∧
      e.expression = Text.trim d.expression := by
  unfold resolve at h
  split at h
  · cases h
  · next source hsource =>
    split at h
    · cases h
    · next hterminal =>
      cases h
      exact ⟨hsource, by simpa using hterminal, rfl, rfl⟩

/-! ## Linked graphs -/

/-- What a graph is made of that its declarations link. -/
theorem link_eq_ok_iff {description : String} {declared : List Declaration}
    {locate : Nat → DefinitionError → DefinitionError} {g : DecisionGraph} :
    link description declared locate = .ok g ↔
      ∃ couplets edges, declared.foldlM register [rootOf description] = .ok couplets ∧
        List.Forall₂ (fun d e => resolve couplets d = .ok e) declared edges ∧
        g = ⟨rootOf description, couplets.tail, edges⟩ := by
  unfold link
  simp only [bind_eq_ok_iff]
  constructor
  · rintro ⟨couplets, hc, edges, he, hg⟩
    cases hg
    exact ⟨couplets, edges, foldNumbered_eq_ok_iff.mp hc, mapNumbered_eq_ok_iff.mp he, rfl⟩
  · rintro ⟨couplets, edges, hc, he, rfl⟩
    exact ⟨couplets, foldNumbered_eq_ok_iff.mpr hc, edges, mapNumbered_eq_ok_iff.mpr he, rfl⟩

/-- The edges of the graph join couplets of the graph. -/
structure Linked (g : DecisionGraph) : Prop where
  source_mem : ∀ e ∈ g.edges, e.source ∈ g.couplets
  target_mem : ∀ e ∈ g.edges, e.target ∈ g.couplets

theorem linked_of_link {description : String} {declared : List Declaration}
    {locate : Nat → DefinitionError → DefinitionError} {g : DecisionGraph}
    (h : link description declared locate = .ok g) : g.Linked := by
  obtain ⟨couplets, edges, hc, he, rfl⟩ := link_eq_ok_iff.mp h
  -- registration only adds at the end, so the root is still the first couplet
  obtain ⟨others, rfl⟩ := prefix_of_foldlM_register hc
  refine ⟨fun e hmem => ?_, fun e hmem => ?_⟩
  · obtain ⟨d, -, hd⟩ := forall₂_exists_left he e hmem
    exact (registered?_eq_some (resolve_eq_ok hd).1).1
  · obtain ⟨d, hdmem, hd⟩ := forall₂_exists_left he e hmem
    obtain ⟨c, hc⟩ := exists_registered?_eq_some (mem_ids_of_foldlM_register hc d hdmem)
    rw [(resolve_eq_ok hd).2.2.1, hc]
    exact (registered?_eq_some hc).1

namespace Linked

variable {g : DecisionGraph} (h : g.Linked)
include h

theorem source_id_mem {e : Edge} (he : e ∈ g.edges) : e.source.id ∈ g.ids :=
  List.mem_map_of_mem (h.source_mem e he)

end Linked

/-! ## Checks -/

theorem checkCycles_eq_ok_iff {g : DecisionGraph} {check : Bool} :
    g.checkCycles check = .ok () ↔
      (check = true → Graph.findCycle g.successors g.ids = none) := by
  unfold checkCycles
  cases check with
  | false => simp
  | true => cases Graph.findCycle g.successors g.ids <;> simp

theorem assemble_eq_ok_iff {description : String} {declared : List Declaration} {check : Bool}
    {locate : Nat → DefinitionError → DefinitionError} {g : DecisionGraph} :
    assemble description declared check locate = .ok g ↔
      link description declared locate = .ok g ∧ g.checkCycles check = .ok () ∧
        g.checkReach = .ok () := by
  unfold assemble
  simp only [bind_eq_ok_iff]
  constructor
  · rintro ⟨_, hl, ⟨⟩, hc, ⟨⟩, hr, ⟨⟩⟩
    exact ⟨hl, hc, hr⟩
  · rintro ⟨hl, hc, hr⟩
    exact ⟨g, hl, (), hc, (), hr, rfl⟩

/-! ## Construction -/

/-- The graphs that construction returns, with cycles refused or not. -/
inductive Built (check : Bool) (g : DecisionGraph) : Prop where
  | ofRows {rows : List Record} {settings : Settings} (hcheck : settings.checkCycles = check)
      (h : DecisionGraph.ofRows rows settings = .ok g)
  | ofDeclarations {description : String} {declared : List Declaration}
      (h : DecisionGraph.ofDeclarations description declared check = .ok g)

theorem Built.exists_assemble {check : Bool} {g : DecisionGraph} (h : Built check g) :
    ∃ description declared locate, assemble description declared check locate = .ok g := by
  cases h with
  | ofRows hcheck h =>
    unfold DecisionGraph.ofRows at h
    obtain ⟨declared, -, h⟩ := bind_eq_ok_iff.mp h
    exact ⟨_, _, _, hcheck ▸ h⟩
  | ofDeclarations h => exact ⟨_, _, _, h⟩

theorem Built.linked {check : Bool} {g : DecisionGraph} (h : Built check g) : g.Linked := by
  obtain ⟨_, _, _, h⟩ := h.exists_assemble
  exact linked_of_link (assemble_eq_ok_iff.mp h).1

theorem Built.findCycle_eq_none {g : DecisionGraph} (h : Built true g) :
    Graph.findCycle g.successors g.ids = none := by
  obtain ⟨_, _, _, h⟩ := h.exists_assemble
  exact checkCycles_eq_ok_iff.mp (assemble_eq_ok_iff.mp h).2.1 rfl

end ClassificationKey.DecisionGraph
