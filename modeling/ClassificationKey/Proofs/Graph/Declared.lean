import ClassificationKey.Proofs.Distinct
import ClassificationKey.Proofs.Graph.Acyclic
import ClassificationKey.Proofs.Graph.Reach

/-!
# Graphs and their declarations

What a list of declarations says, apart from the way in which it is gone through: each declaration
describes the couplet of its output, `distinct` keeps the first description of each id, and the
descriptions must agree on the kinds. `IsDeclaredBy` says what graph the declarations stand for, and
`link` returns exactly that (`link_eq_ok_iff_isDeclaredBy`); where there is none, `LinkFault` says
which declaration is at fault (`linkFault_of_link`). A graph that is linked passes its checks under
conditions on the declarations again, so that `WellDeclared` says of them whether construction returns
a graph (`exists_assemble_iff`).
-/

namespace ClassificationKey

@[ext] theorem Edge.ext {e f : Edge} (hsource : e.source = f.source) (htarget : e.target = f.target)
    (hexpression : e.expression = f.expression) : e = f := by
  obtain ⟨source, target, expression, guard, rfl⟩ := e
  obtain ⟨source', target', expression', guard', rfl⟩ := f
  cases hsource
  cases htarget
  cases hexpression
  rfl

namespace DecisionGraph

open Relation

/-! ## Descriptions -/

/-- The couplets as they are described: the root, and the output of each declaration. -/
def described (description : String) (declared : List Declaration) : List Couplet :=
  rootOf description :: declared.map Declaration.output

/-- Of the couplets with one id the first. -/
def distinct (couplets : List Couplet) : List Couplet := couplets.eraseDupsBy Couplet.same

/-- The couplets with one id are of one kind. -/
def Agree (couplets : List Couplet) : Prop :=
  ∀ a ∈ couplets, ∀ b ∈ couplets, a.id = b.id → a.kind = b.kind

/-- An edge may leave the id: some couplet has it, and none that has it is a class. -/
structure Branches (couplets : List Couplet) (id : CoupletId) : Prop where
  described : ∃ c ∈ couplets, c.id = id
  not_terminal : ∀ c ∈ couplets, c.id = id → c.isTerminal = false

theorem registered?_distinct (couplets : List Couplet) (id : CoupletId) :
    registered? (distinct couplets) id = registered? couplets id := by
  refine find?_eraseDupsBy (fun a b hab => ?_) couplets
  rw [Couplet.same, beq_iff_eq] at hab
  rw [hab]

theorem mem_of_mem_distinct {couplets : List Couplet} {c : Couplet} (h : c ∈ distinct couplets) :
    c ∈ couplets :=
  (eraseDupsBy_sublist Couplet.same couplets).subset h

theorem exists_mem_distinct_iff {couplets : List Couplet} {id : CoupletId} :
    (∃ c ∈ distinct couplets, c.id = id) ↔ ∃ c ∈ couplets, c.id = id := by
  rw [← isSome_registered?_iff, ← isSome_registered?_iff, registered?_distinct]

theorem distinct_concat (couplets : List Couplet) (c : Couplet) :
    distinct (couplets ++ [c]) =
      if (registered? couplets c.id).isSome then distinct couplets
      else distinct couplets ++ [c] := by
  have hany : (distinct couplets).any (Couplet.same c) = (registered? couplets c.id).isSome := by
    rw [Bool.eq_iff_iff, ← registered?_distinct, isSome_registered?_iff, List.any_eq_true]
    refine exists_congr fun a => and_congr_right fun _ => ?_
    rw [Couplet.same, beq_iff_eq]
    exact eq_comm
  rw [distinct, eraseDupsBy_concat, ← hany]
  rfl

/-! ## Registration -/

variable {couplets : List Couplet}

theorem Agree.of_append {more : List Couplet} (h : Agree (couplets ++ more)) : Agree couplets :=
  fun a ha b hb => h a (List.mem_append_left more ha) b (List.mem_append_left more hb)

theorem agree_concat_iff (h : Agree couplets) {c : Couplet} :
    Agree (couplets ++ [c]) ↔ ∀ a ∈ couplets, a.id = c.id → a.kind = c.kind := by
  constructor
  · exact fun hc a ha hid => hc a (List.mem_append_left _ ha) c (by simp) hid
  · intro hc a ha b hb hid
    rcases List.mem_append.mp ha with ha | ha <;> rcases List.mem_append.mp hb with hb | hb
    · exact h a ha b hb hid
    · rw [List.mem_singleton.mp hb] at hid ⊢
      exact hc a ha hid
    · rw [List.mem_singleton.mp ha] at hid ⊢
      exact (hc b hb hid.symm).symm
    · rw [List.mem_singleton.mp ha, List.mem_singleton.mp hb]

/-- An output is registered if it agrees with the descriptions before it. -/
theorem register_distinct_eq_ok_iff (h : Agree couplets) {d : Declaration} {after : List Couplet} :
    register (distinct couplets) d = .ok after ↔
      Agree (couplets ++ [d.output]) ∧ after = distinct (couplets ++ [d.output]) := by
  rw [register, registered?_distinct, agree_concat_iff h, distinct_concat]
  cases hfirst : registered? couplets d.output.id with
  | none =>
    have hnew : ∀ a ∈ couplets, a.id = d.output.id → a.kind = d.output.kind := by
      intro a ha hid
      exact absurd hid (registered?_eq_none_iff.mp hfirst a ha)
    constructor
    · intro hok
      exact ⟨hnew, (Except.ok.inj hok).symm⟩
    · rintro ⟨-, rfl⟩
      rfl
  | some first =>
    obtain ⟨hmem, hid⟩ := registered?_eq_some hfirst
    have hagree : (∀ a ∈ couplets, a.id = d.output.id → a.kind = d.output.kind) ↔
        first.kind = d.output.kind := by
      constructor
      · exact fun hall => hall first hmem hid
      · intro hkind a ha hida
        rw [h a ha first hmem (hida.trans hid.symm), hkind]
    rw [hagree]
    by_cases hkind : first.kind = d.output.kind <;> simp [hkind, eq_comm]

theorem register_distinct_eq_error {d : Declaration} {e : DefinitionError}
    (h : register (distinct couplets) d = .error e) :
    ∃ first ∈ couplets, first.id = d.output.id ∧ first.kind ≠ d.output.kind ∧
      e = .conflictingCouplet d.output.id first.kind d.output.kind := by
  rw [register, registered?_distinct] at h
  cases hfirst : registered? couplets d.output.id with
  | none =>
    rw [hfirst] at h
    cases h
  | some first =>
    obtain ⟨hmem, hid⟩ := registered?_eq_some hfirst
    rw [hfirst] at h
    by_cases hkind : first.kind = d.output.kind
    · simp [hkind] at h
    · simp only [if_neg hkind, Except.error.injEq] at h
      exact ⟨first, hmem, hid, hkind, h.symm⟩

/-- All outputs are registered if all descriptions agree, and the first ones are kept. -/
theorem foldlM_register_distinct_eq_ok_iff (h : Agree couplets) {declared : List Declaration}
    {after : List Couplet} :
    declared.foldlM register (distinct couplets) = .ok after ↔
      Agree (couplets ++ declared.map Declaration.output) ∧
        after = distinct (couplets ++ declared.map Declaration.output) := by
  induction declared generalizing couplets with
  | nil =>
    rw [List.foldlM_nil, List.map_nil, List.append_nil]
    simp [h, pure, Except.pure, eq_comm]
  | cons d declared ih =>
    have hsplit : couplets ++ (d :: declared).map Declaration.output =
        couplets ++ [d.output] ++ declared.map Declaration.output := by simp
    rw [List.foldlM_cons, bind_eq_ok_iff, hsplit]
    constructor
    · rintro ⟨between, hd, hrest⟩
      obtain ⟨hagree, rfl⟩ := (register_distinct_eq_ok_iff h).mp hd
      exact (ih hagree).mp hrest
    · rintro ⟨hagree, rfl⟩
      have hd := (register_distinct_eq_ok_iff h (d := d)).mpr ⟨hagree.of_append, rfl⟩
      exact ⟨_, hd, (ih hagree.of_append).mpr ⟨hagree, rfl⟩⟩

/-! ## Edges -/

/-- Where the descriptions agree, the first one of an id decides whether edges may leave it. -/
theorem branches_iff (h : Agree couplets) {id : CoupletId} :
    Branches couplets id ↔ ∃ c, registered? couplets id = some c ∧ c.isTerminal = false := by
  constructor
  · intro hb
    obtain ⟨c, hc⟩ := exists_registered?_eq_some hb.described
    obtain ⟨hmem, hid⟩ := registered?_eq_some hc
    exact ⟨c, hc, hb.not_terminal c hmem hid⟩
  · rintro ⟨c, hc, hterminal⟩
    obtain ⟨hmem, hid⟩ := registered?_eq_some hc
    refine ⟨⟨c, hmem, hid⟩, fun a ha haid => ?_⟩
    have hkind := h a ha c hmem (haid.trans hid.symm)
    rw [Couplet.isTerminal, hkind]
    exact hterminal

/-- The edge that a declaration stands for, between couplets as they are first described. -/
structure Declares (couplets : List Couplet) (d : Declaration) (e : Edge) : Prop where
  source : registered? couplets d.input = some e.source
  not_terminal : e.source.isTerminal = false
  target : registered? couplets d.output.id = some e.target
  expression : e.expression = Text.trim d.expression

namespace Declares

variable {d : Declaration} {e : Edge} (h : Declares couplets d e)
include h

theorem source_id : e.source.id = d.input := (registered?_eq_some h.source).2

theorem target_id : e.target.id = d.output.id := (registered?_eq_some h.target).2

end Declares

theorem resolve_distinct (d : Declaration) :
    resolve (distinct couplets) d = resolve couplets d := by
  simp only [resolve, registered?_distinct]

theorem resolve_eq_ok_iff {d : Declaration} {e : Edge} (hmem : d.output ∈ couplets) :
    resolve couplets d = .ok e ↔ Declares couplets d e := by
  obtain ⟨target, htarget⟩ := exists_registered?_eq_some ⟨d.output, hmem, rfl⟩
  constructor
  · intro h
    obtain ⟨hsource, hterminal, he, hexpression⟩ := resolve_eq_ok h
    rw [htarget, Option.getD_some] at he
    exact ⟨hsource, hterminal, he ▸ htarget, hexpression⟩
  · intro h
    have he : target = e.target := Option.some.inj (htarget.symm.trans h.target)
    rw [resolve, h.source, htarget]
    simp only [h.not_terminal, Bool.false_eq_true, if_false, Option.getD_some]
    exact congrArg Except.ok (Edge.ext rfl he h.expression.symm)

theorem exists_resolve_iff (h : Agree couplets) {d : Declaration} :
    (∃ e, resolve couplets d = .ok e) ↔ Branches couplets d.input := by
  rw [branches_iff h]
  constructor
  · rintro ⟨e, he⟩
    obtain ⟨hsource, hterminal, -, -⟩ := resolve_eq_ok he
    exact ⟨e.source, hsource, hterminal⟩
  · rintro ⟨source, hsource, hterminal⟩
    rw [resolve, hsource]
    simp [hterminal]

/-- Why a declaration has no edge. -/
inductive ResolveFault (couplets : List Couplet) (id : CoupletId) : DefinitionError → Prop where
  | undefined (nowhere : ∀ c ∈ couplets, c.id ≠ id) : ResolveFault couplets id (.undefinedInput id)
  | terminal {c : Couplet} (mem : c ∈ couplets) (id_eq : c.id = id)
      (terminal : c.isTerminal = true) : ResolveFault couplets id (.terminalHasBranches id)

theorem resolveFault_of_resolve {d : Declaration} {e : DefinitionError}
    (h : resolve couplets d = .error e) : ResolveFault couplets d.input e := by
  rw [resolve] at h
  cases hsource : registered? couplets d.input with
  | none =>
    rw [hsource] at h
    cases h
    exact .undefined (registered?_eq_none_iff.mp hsource)
  | some source =>
    obtain ⟨hmem, hid⟩ := registered?_eq_some hsource
    rw [hsource] at h
    cases hterminal : source.isTerminal with
    | true =>
      simp only [hterminal, if_true, Except.error.injEq] at h
      exact h ▸ .terminal hmem hid hterminal
    | false => simp [hterminal] at h

/-! ## Linked graphs -/

/-- A declaration leads from couplet `a` to couplet `b`. -/
def Connects (declared : List Declaration) (a b : CoupletId) : Prop :=
  ∃ d ∈ declared, d.input = a ∧ d.output.id = b

/-- The graph that the declarations stand for. -/
structure IsDeclaredBy (g : DecisionGraph) (description : String) (declared : List Declaration) :
    Prop where
  agree : Agree (described description declared)
  couplets_eq : g.couplets = distinct (described description declared)
  edges : List.Forall₂ (Declares (described description declared)) declared g.edges

variable {description : String} {declared : List Declaration} {g : DecisionGraph}
  {locate : Nat → DefinitionError → DefinitionError}

theorem output_mem_described {d : Declaration} (h : d ∈ declared) :
    d.output ∈ described description declared :=
  List.mem_cons_of_mem _ (List.mem_map_of_mem h)

theorem distinct_described (description : String) (declared : List Declaration) :
    distinct (described description declared) = rootOf description ::
      distinct ((declared.map Declaration.output).filter fun c => c.id ≠ .root) := by
  rw [distinct, described, List.eraseDupsBy_cons, distinct]
  congr 2
  refine List.filter_congr fun c _ => ?_
  simp [Couplet.same, rootOf]

theorem foldlM_register_eq_ok_iff {after : List Couplet} :
    declared.foldlM register [rootOf description] = .ok after ↔
      Agree (described description declared) ∧
        after = distinct (described description declared) := by
  have hroot : Agree [rootOf description] := by
    intro a ha b hb _
    rw [List.mem_singleton.mp ha, List.mem_singleton.mp hb]
  exact foldlM_register_distinct_eq_ok_iff hroot

/-- The declarations are linked to the graph that they stand for. -/
theorem link_eq_ok_iff_isDeclaredBy :
    link description declared locate = .ok g ↔ g.IsDeclaredBy description declared := by
  have hresolve : ∀ d ∈ declared, ∀ e,
      resolve (distinct (described description declared)) d = .ok e ↔
        Declares (described description declared) d e := by
    intro d hd e
    rw [resolve_distinct, resolve_eq_ok_iff (output_mem_described hd)]
  rw [link_eq_ok_iff]
  constructor
  · rintro ⟨couplets, edges, hc, he, rfl⟩
    obtain ⟨hagree, rfl⟩ := foldlM_register_eq_ok_iff.mp hc
    refine ⟨hagree, ?_, forall₂_imp_of_mem (fun d hd e => (hresolve d hd e).mp) he⟩
    rw [distinct_described]
    rfl
  · intro h
    refine ⟨_, g.edges, foldlM_register_eq_ok_iff.mpr ⟨h.agree, rfl⟩,
      forall₂_imp_of_mem (fun d hd e => (hresolve d hd e).mpr) h.edges, ?_⟩
    obtain ⟨root, others, edges⟩ := g
    have hcouplets : root :: others = distinct (described description declared) := h.couplets_eq
    rw [distinct_described, List.cons.injEq] at hcouplets
    rw [distinct_described, hcouplets.1, hcouplets.2]
    rfl

theorem isDeclaredBy_of_assemble {check : Bool}
    (h : assemble description declared check locate = .ok g) :
    g.IsDeclaredBy description declared :=
  link_eq_ok_iff_isDeclaredBy.mp (assemble_eq_ok_iff.mp h).1

/-- Declarations that agree, and leave no class and no couplet without description, stand for a
graph. -/
theorem exists_isDeclaredBy (hagree : Agree (described description declared))
    (hbranches : ∀ d ∈ declared, Branches (described description declared) d.input) :
    ∃ g, IsDeclaredBy g description declared := by
  have hdeclares : ∀ d ∈ declared, ∃ e, Declares (described description declared) d e := by
    intro d hd
    obtain ⟨e, he⟩ := (exists_resolve_iff hagree).mpr (hbranches d hd)
    exact ⟨e, (resolve_eq_ok_iff (output_mem_described hd)).mp he⟩
  obtain ⟨edges, hedges⟩ := exists_forall₂ hdeclares
  exact ⟨⟨rootOf description, _, edges⟩, hagree, (distinct_described description declared).symm,
    hedges⟩

/-- What stands in the way of linking declarations: the first output that disagrees with a
description before it, or, where all agree, the first input that no edge may leave. -/
inductive LinkFault (description : String) (declared : List Declaration) :
    Nat → DefinitionError → Prop where
  | conflict {before after : List Declaration} {d : Declaration} {first : Couplet}
      (split : declared = before ++ d :: after) (agree : Agree (described description before))
      (mem : first ∈ described description before) (id_eq : first.id = d.output.id)
      (kind_ne : first.kind ≠ d.output.kind) :
      LinkFault description declared before.length
        (.conflictingCouplet d.output.id first.kind d.output.kind)
  | input {before after : List Declaration} {d : Declaration} {e : DefinitionError}
      (agree : Agree (described description declared)) (split : declared = before ++ d :: after)
      (earlier : ∀ b ∈ before, Branches (described description declared) b.input)
      (fault : ResolveFault (described description declared) d.input e) :
      LinkFault description declared before.length e

theorem linkFault_of_link {e : DefinitionError} (h : link description declared locate = .error e) :
    ∃ i e', LinkFault description declared i e' ∧ e = locate i e' := by
  unfold link at h
  rcases bind_eq_error_iff.mp h with h | ⟨couplets, hc, h⟩
  · obtain ⟨before, d, after, couplets, e', hsplit, hbefore, hd, rfl⟩ := foldNumbered_eq_error h
    obtain ⟨hagree, rfl⟩ := foldlM_register_eq_ok_iff.mp hbefore
    obtain ⟨first, hfirst, hid, hkind, rfl⟩ := register_distinct_eq_error hd
    rw [Nat.zero_add]
    exact ⟨_, _, .conflict hsplit hagree hfirst hid hkind, rfl⟩
  · obtain ⟨hagree, rfl⟩ := foldlM_register_eq_ok_iff.mp (foldNumbered_eq_ok_iff.mp hc)
    rcases bind_eq_error_iff.mp h with h | ⟨edges, -, h⟩
    · obtain ⟨before, d, after, e', hsplit, hbefore, hd, rfl⟩ := mapNumbered_eq_error h
      rw [resolve_distinct] at hd
      rw [Nat.zero_add]
      refine ⟨_, _, .input hagree hsplit (fun b hb => ?_) (resolveFault_of_resolve hd), rfl⟩
      obtain ⟨e, he⟩ := hbefore b hb
      rw [resolve_distinct] at he
      exact (exists_resolve_iff hagree).mp ⟨e, he⟩
    · cases h

theorem Linked.successors_subset (h : g.Linked) : ∀ v ∈ g.ids, g.successors v ⊆ g.ids := by
  intro v _ w hw
  obtain ⟨e, he, -, rfl⟩ := mem_successors.mp hw
  exact List.mem_map_of_mem (h.target_mem e he)

/-! ## What a linked graph consists of -/

namespace IsDeclaredBy

variable (h : g.IsDeclaredBy description declared)
include h

theorem branches : ∀ d ∈ declared, Branches (described description declared) d.input := by
  intro d hd
  obtain ⟨e, -, he⟩ := forall₂_exists_right h.edges d hd
  exact (branches_iff h.agree).mpr ⟨e.source, he.source, he.not_terminal⟩

theorem root_eq : g.root = rootOf description := by
  have hcouplets : g.root :: g.others = _ := h.couplets_eq
  rw [distinct_described, List.cons.injEq] at hcouplets
  exact hcouplets.1

theorem others_eq :
    g.others = distinct ((declared.map Declaration.output).filter fun c => c.id ≠ .root) := by
  have hcouplets : g.root :: g.others = _ := h.couplets_eq
  rw [distinct_described, List.cons.injEq] at hcouplets
  exact hcouplets.2

theorem mem_ids_iff {id : CoupletId} :
    id ∈ g.ids ↔ id = .root ∨ ∃ d ∈ declared, d.output.id = id := by
  rw [ids, h.couplets_eq, List.mem_map, exists_mem_distinct_iff]
  simp [described, rootOf, eq_comm]

theorem joins_iff {a b : CoupletId} :
    g.Joins a b ↔ Connects declared a b := by
  constructor
  · rintro ⟨e, he, rfl, rfl⟩
    obtain ⟨d, hd, hde⟩ := forall₂_exists_left h.edges e he
    exact ⟨d, hd, hde.source_id.symm, hde.target_id.symm⟩
  · rintro ⟨d, hd, rfl, rfl⟩
    obtain ⟨e, he, hde⟩ := forall₂_exists_right h.edges d hd
    exact ⟨e, he, hde.source_id, hde.target_id⟩

theorem joins_eq : g.Joins = Connects declared := by
  funext a b
  exact propext h.joins_iff

theorem linked : g.Linked := by
  have hlink : link description declared (fun _ e => e) = .ok g := link_eq_ok_iff_isDeclaredBy.mpr h
  exact linked_of_link hlink

/-- The first couplet with a property that the root lacks is that of the first declaration whose
output has it. -/
theorem find?_ids {p : CoupletId → Bool} (hroot : p .root = false) :
    g.ids.find? p = (declared.find? fun d => p d.output.id).map fun d => d.output.id := by
  rw [ids, h.couplets_eq, List.find?_map, distinct, find?_eraseDupsBy, described,
    List.find?_cons_of_neg, List.find?_map, Option.map_map]
  · rfl
  · simpa [rootOf] using hroot
  · intro a b hab
    rw [Couplet.same, beq_iff_eq] at hab
    rw [Function.comp_apply, Function.comp_apply, hab]

open Classical in
theorem firstUnreached_eq :
    Graph.firstUnreached g.successors g.root.id g.ids =
      (declared.find? fun d => ¬ ReflTransGen (Connects declared) .root d.output.id).map
        fun d => d.output.id := by
  have hroot : g.root.id = .root := by rw [h.root_eq]; rfl
  rw [Graph.firstUnreached_eq_find? h.linked.successors_subset List.mem_cons_self, hroot,
    leads_successors, h.joins_eq]
  exact h.find?_ids (decide_eq_false (not_not_intro .refl))

end IsDeclaredBy

/-! ## Checks -/

theorem checkCycles_eq_error (h : g.IsDeclaredBy description declared) {check : Bool}
    {e : DefinitionError} (he : g.checkCycles check = .error e) :
    check = true ∧ ∃ path, e = .cyclicKey path ∧ Graph.IsCycle (Connects declared) path := by
  unfold checkCycles at he
  cases check with
  | false => cases he
  | true =>
    cases hpath : Graph.findCycle g.successors g.ids with
    | none =>
      rw [hpath] at he
      cases he
    | some path =>
      rw [hpath] at he
      cases he
      refine ⟨rfl, path, rfl, ?_⟩
      obtain ⟨c, hc, rfl⟩ := Option.map_eq_some_iff.mp hpath
      rw [← h.joins_eq, ← leads_successors]
      exact (h.linked.genuine_of_closure? hc).isCycle

theorem checkCycles_eq_ok_iff_not_hasCycle (h : g.IsDeclaredBy description declared)
    {check : Bool} :
    g.checkCycles check = .ok () ↔ (check = true → ¬ Graph.HasCycle (Connects declared)) := by
  rw [checkCycles_eq_ok_iff, ← h.joins_eq, ← h.linked.isSome_findCycle_iff,
    Option.not_isSome_iff_eq_none]

theorem checkReach_eq_ok_iff (h : g.IsDeclaredBy description declared) :
    g.checkReach = .ok () ↔ ∀ d ∈ declared, ReflTransGen (Connects declared) .root d.output.id := by
  have hnone : Graph.firstUnreached g.successors g.root.id g.ids = none ↔
      ∀ d ∈ declared, ReflTransGen (Connects declared) .root d.output.id := by
    rw [h.firstUnreached_eq, Option.map_eq_none_iff, List.find?_eq_none]
    simp only [decide_eq_true_eq, not_not]
  rw [← hnone, checkReach]
  cases Graph.firstUnreached g.successors g.root.id g.ids <;> simp

/-- Of the couplets that the root does not lead to, the one that is declared first is reported. -/
theorem checkReach_eq_error (h : g.IsDeclaredBy description declared) {e : DefinitionError}
    (he : g.checkReach = .error e) :
    ∃ before d after, declared = before ++ d :: after ∧ e = .unreachable d.output.id ∧
      ¬ ReflTransGen (Connects declared) .root d.output.id ∧
      ∀ b ∈ before, ReflTransGen (Connects declared) .root b.output.id := by
  unfold checkReach at he
  cases hid : Graph.firstUnreached g.successors g.root.id g.ids with
  | none =>
    rw [hid] at he
    cases he
  | some id =>
    rw [hid] at he
    cases he
    rw [h.firstUnreached_eq, Option.map_eq_some_iff] at hid
    obtain ⟨d, hd, rfl⟩ := hid
    obtain ⟨hnot, before, after, hsplit, hbefore⟩ := List.find?_eq_some_iff_append.mp hd
    refine ⟨before, d, after, hsplit, rfl, by simpa using hnot, fun b hb => ?_⟩
    simpa using hbefore b hb

/-- What declarations must satisfy to make a graph, cycles being refused or not. -/
structure WellDeclared (description : String) (declared : List Declaration) (check : Bool) : Prop where
  agree : Agree (described description declared)
  branches : ∀ d ∈ declared, Branches (described description declared) d.input
  acyclic : check = true → ¬ Graph.HasCycle (Connects declared)
  reached : ∀ d ∈ declared, ReflTransGen (Connects declared) .root d.output.id

theorem exists_assemble_iff {check : Bool} :
    (∃ g, assemble description declared check locate = .ok g) ↔
      WellDeclared description declared check := by
  simp only [assemble_eq_ok_iff, link_eq_ok_iff_isDeclaredBy]
  constructor
  · rintro ⟨g, hg, hcycles, hreach⟩
    exact ⟨hg.agree, hg.branches, (checkCycles_eq_ok_iff_not_hasCycle hg).mp hcycles,
      (checkReach_eq_ok_iff hg).mp hreach⟩
  · intro h
    obtain ⟨g, hg⟩ := exists_isDeclaredBy h.agree h.branches
    exact ⟨g, hg, (checkCycles_eq_ok_iff_not_hasCycle hg).mpr h.acyclic,
      (checkReach_eq_ok_iff hg).mpr h.reached⟩

end DecisionGraph

end ClassificationKey
