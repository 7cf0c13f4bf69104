import ClassificationKey.Proofs.Graph.Export

/-!
# The kind of the root

The couplet in front of a graph is the root of its key, with the root's id, and its kind is compared
with that of every output that has this id. An output with another id may be declared with the kind
of a root all the same, and is kept as it is: a graph has one couplet of that kind exactly when no
declaration does so (`IsDeclaredBy.hasOneRoot_iff`). A row of a key table never does.
-/

namespace ClassificationKey.DecisionGraph

variable {description : String} {declared : List Declaration} {g : DecisionGraph}

/-- The couplet with the root's id is the one couplet of a root's kind. -/
structure HasOneRoot (g : DecisionGraph) : Prop where
  id_root : g.root.id = .root
  roots : g.couplets.filter (fun c => c.kind = .root) = [g.root]

namespace IsDeclaredBy

variable (h : g.IsDeclaredBy description declared)
include h

theorem roots_iff :
    g.couplets.filter (fun c => c.kind = .root) = [g.root] ↔ ∀ c ∈ g.others, c.kind ≠ .root := by
  have hroot : g.root.kind = .root := by
    rw [h.root_eq]
    rfl
  rw [couplets, List.filter_cons_of_pos (by simpa using hroot), List.cons.injEq,
    List.filter_eq_nil_iff]
  simp

/-- An output with an id of its own stands among the couplets, with the kind that it declares. -/
theorem exists_mem_others {d : Declaration} (hd : d ∈ declared) (hid : d.output.id ≠ .root) :
    ∃ c ∈ g.others, c.id = d.output.id ∧ c.kind = d.output.kind := by
  have hmem : d.output ∈ (declared.map Declaration.output).filter fun c => c.id ≠ .root := by
    simp only [List.mem_filter, decide_eq_true_eq]
    exact ⟨List.mem_map_of_mem hd, hid⟩
  obtain ⟨c, hc, hcid⟩ := exists_mem_distinct_iff.mpr ⟨d.output, hmem, rfl⟩
  have hdescribed : c ∈ described description declared :=
    List.mem_cons_of_mem _ (List.mem_of_mem_filter (mem_of_mem_distinct hc))
  exact ⟨c, h.others_eq ▸ hc, hcid, h.agree c hdescribed d.output (output_mem_described hd) hcid⟩

theorem hasOneRoot_iff :
    g.HasOneRoot ↔ ∀ d ∈ declared, d.output.kind = .root → d.output.id = .root := by
  constructor
  · intro hone d hd hkind
    by_contra hid
    obtain ⟨c, hc, -, hckind⟩ := h.exists_mem_others hd hid
    exact h.roots_iff.mp hone.roots c hc (hckind.trans hkind)
  · intro hkinds
    refine ⟨by rw [h.root_eq]; rfl, h.roots_iff.mpr fun c hc hkind => ?_⟩
    obtain ⟨d, hd, rfl, hid⟩ := h.exists_output_of_mem_others hc
    exact hid (hkinds d hd hkind)

end IsDeclaredBy

/-- A graph that is read from a table has one root. A graph of declarations has one exactly when these
give the kind of a root to no other id. -/
theorem hasOneRoot_spec (g : DecisionGraph) :
    (∀ rows settings, ofRows rows settings = .ok g → g.HasOneRoot) ∧
      ∀ description declared check, ofDeclarations description declared check = .ok g →
        (g.HasOneRoot ↔ ∀ d ∈ declared, d.output.kind = .root → d.output.id = .root) := by
  constructor
  · intro rows settings hg
    obtain ⟨declared, hrows, hdeclared, -, -⟩ := ofRows_eq_ok_iff.mp hg
    refine hdeclared.hasOneRoot_iff.mpr fun d hd hkind => ?_
    obtain ⟨row, -, hrow⟩ := forall₂_exists_left hrows d hd
    exact absurd hkind hrow.kind_ne_root
  · intro description declared check hg
    exact (isDeclaredBy_of_assemble hg).hasOneRoot_iff

/-- A class below the root. -/
def leafRow : Record :=
  .ofList [("INPUT_COUPLET", .integer 0), ("RULES", .text "1"), ("OUTPUT_CLASS", .text "L"),
    ("OUTPUT_NAME", .text "Leaf")]

/-- A couplet of a root's kind between the root and a class. -/
def secondRoot : List Declaration :=
  [⟨.number 0, "1", ⟨.number 1, .root, "Second", ""⟩⟩,
    ⟨.number 1, "2", ⟨.number 2, .terminal, "Leaf", ""⟩⟩]

theorem hasOneRoot_leafRow :
    (∃ g, ofRows [leafRow] ⟨"Key", none, false, none⟩ = .ok g ∧ g.HasOneRoot) ∧
      ∃ g, ofDeclarations "Shapes" roundShapes false = .ok g ∧ g.HasOneRoot := by
  have htable : ∃ g, ofRows [leafRow] ⟨"Key", none, false, none⟩ = .ok g := ⟨_, rfl⟩
  have hshapes : ∃ g, ofDeclarations "Shapes" roundShapes false = .ok g := ⟨_, rfl⟩
  obtain ⟨g, hg⟩ := htable
  obtain ⟨g', hg'⟩ := hshapes
  exact ⟨⟨g, hg, (hasOneRoot_spec g).1 _ _ hg⟩,
    ⟨g', hg', ((hasOneRoot_spec g').2 _ _ _ hg').mpr (by decide)⟩⟩

theorem not_hasOneRoot_secondRoot :
    ∃ g, ofDeclarations "Key" secondRoot true = .ok g ∧ ¬ g.HasOneRoot := by
  have hlink : ∃ g, link "Key" secondRoot (fun _ e => e) = .ok g ∧ g.checkReach = .ok () ∧
      (∀ e ∈ g.edges, (e.source.id = .root ∧ e.target.id = .number 1) ∨
        (e.source.id = .number 1 ∧ e.target.id = .number 2)) ∧
      g.couplets.filter (fun c => c.kind = .root) ≠ [g.root] :=
    ⟨_, rfl, rfl, by decide, by decide⟩
  obtain ⟨g, hg, hreach, hedges, hroots⟩ := hlink
  have hcheck : g.checkCycles true = .ok () := by
    refine checkCycles_of_rank (linked_of_link hg)
      (fun id => if id = .root then 0 else if id = .number 1 then 1 else 2) (fun e he => ?_) true
    obtain ⟨hsource, htarget⟩ | ⟨hsource, htarget⟩ := hedges e he <;> rw [hsource, htarget] <;>
      decide
  exact ⟨g, assemble_eq_ok_iff.mpr ⟨hg, hcheck, hreach⟩, fun hone => hroots hone.roots⟩

end ClassificationKey.DecisionGraph
