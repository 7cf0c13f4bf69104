import ClassificationKey.Proofs.Graph.Table

/-!
# Couplets that the root does not lead to

Every input of linked declarations is the root or the output of a declaration. So a couplet that the
root does not lead to is led to by another one of this sort, and walking backwards from it never
leaves them. There are finitely many, hence one is met again (`exists_isCycle_of_backwards`): behind
every unreachable couplet lies a cycle apart from the root (`exists_detachedCycle`). So construction
never reports an unreachable couplet where cycles are refused, and where they are not it reports one
for such a cycle only (`unreachable_spec`).
-/

namespace ClassificationKey

open Relation

/-! ## Walking backwards -/

namespace Graph

section Backwards

variable {α : Type} {R : α → α → Prop} {p : α → Prop}

/-- A node that leads to a path through itself closes a cycle with the part before it. -/
theorem isCycle_of_isChain_cons {v : α} {before after : List α}
    (hchain : (v :: (before ++ v :: after)).IsChain R) (hnodup : (before ++ v :: after).Nodup) :
    IsCycle R (v :: before ++ [v]) := by
  have hprefix : v :: before ++ [v] <+: v :: (before ++ v :: after) := ⟨after, by simp⟩
  refine ⟨by simp, ?_, ?_, hchain.prefix hprefix⟩
  · rw [List.getLast?_concat]
    rfl
  · rw [List.dropLast_concat, List.nodup_cons]
    obtain ⟨hbefore, -, hdisjoint⟩ := List.nodup_append.mp hnodup
    exact ⟨fun hv => hdisjoint v hv v List.mem_cons_self rfl, hbefore⟩

/-- Among nodes that are led to by one another there is a cycle, or a path as long as one likes. -/
theorem exists_isCycle_or_path (hpred : ∀ w, p w → ∃ v, p v ∧ R v w) {w : α} (hw : p w)
    (n : Nat) : (∃ path, IsCycle R path ∧ ∀ v ∈ path, p v) ∨
      ∃ path : List α, path.length = n + 1 ∧ path.IsChain R ∧ path.Nodup ∧ ∀ v ∈ path, p v := by
  induction n with
  | zero => exact .inr ⟨[w], rfl, .singleton w, List.nodup_singleton w, by simpa using hw⟩
  | succ n ih =>
    obtain hcycle | ⟨path, hlength, hchain, hnodup, hpath⟩ := ih
    · exact .inl hcycle
    obtain ⟨u, rest, rfl⟩ := List.exists_cons_of_length_eq_add_one hlength
    -- the path is prolonged at its front, by a predecessor of its first node
    obtain ⟨v, hv, hvu⟩ := hpred u (hpath u List.mem_cons_self)
    have hlonger : (v :: u :: rest).IsChain R := hchain.cons_cons hvu
    by_cases hmem : v ∈ u :: rest
    · obtain ⟨before, after, hsplit⟩ := List.append_of_mem hmem
      rw [hsplit] at hlonger hnodup hpath
      have hsub : v :: before ++ [v] ⊆ before ++ v :: after := by simp
      exact .inl ⟨_, isCycle_of_isChain_cons hlonger hnodup, fun x hx => hpath x (hsub hx)⟩
    · exact .inr ⟨v :: u :: rest, by rw [List.length_cons, hlength], hlonger,
        List.nodup_cons.mpr ⟨hmem, hnodup⟩, List.forall_mem_cons.mpr ⟨hv, hpath⟩⟩

/-- Among finitely many nodes that are led to by one another there is a cycle. -/
theorem exists_isCycle_of_backwards {nodes : List α} (hnodes : ∀ v, p v → v ∈ nodes)
    (hpred : ∀ w, p w → ∃ v, p v ∧ R v w) {w : α} (hw : p w) :
    ∃ path, IsCycle R path ∧ ∀ v ∈ path, p v := by
  obtain hcycle | ⟨path, hlength, -, hnodup, hpath⟩ :=
    exists_isCycle_or_path hpred hw nodes.length
  · exact hcycle
  · have hle : path.length ≤ nodes.length :=
      (hnodup.subperm fun v hv => hnodes v (hpath v hv)).length_le
    omega

end Backwards

end Graph

namespace DecisionGraph

variable {description : String} {declared : List Declaration} {g : DecisionGraph}

/-! ## Detached cycles -/

/-- A declared couplet that leads to `id`, while the root does not lead to it. -/
structure Behind (declared : List Declaration) (id v : CoupletId) : Prop where
  is_output : ∃ d ∈ declared, d.output.id = v
  unreached : ¬ ReflTransGen (Connects declared) .root v
  leads : ReflTransGen (Connects declared) v id

/-- A cycle that leads to `id`, while the root leads to no couplet of it. -/
structure DetachedCycle (declared : List Declaration) (id : CoupletId) (path : List CoupletId) :
    Prop where
  cycle : Graph.IsCycle (Connects declared) path
  behind : ∀ v ∈ path, Behind declared id v

/-- The input of a declaration is the root or an output; where the root does not lead to the
declaration's own output, it is such an output too. -/
theorem Behind.exists_predecessor
    (hbranches : ∀ d ∈ declared, Branches (described description declared) d.input)
    {id w : CoupletId} (h : Behind declared id w) :
    ∃ v, Behind declared id v ∧ Connects declared v w := by
  obtain ⟨d, hd, rfl⟩ := h.is_output
  have hstep : Connects declared d.input d.output.id := ⟨d, hd, rfl, rfl⟩
  have hunreached : ¬ ReflTransGen (Connects declared) .root d.input :=
    fun hreached => h.unreached (hreached.tail hstep)
  refine ⟨d.input, ⟨?_, hunreached, .head hstep h.leads⟩, hstep⟩
  obtain ⟨c, hc, hid⟩ := (hbranches d hd).described
  rcases List.mem_cons.mp hc with rfl | hc
  · exact absurd .refl (hid ▸ hunreached)
  · obtain ⟨b, hb, rfl⟩ := List.mem_map.mp hc
    exact ⟨b, hb, hid⟩

/-- Behind an output that the root does not lead to lies a detached cycle. -/
theorem exists_detachedCycle
    (hbranches : ∀ d ∈ declared, Branches (described description declared) d.input)
    {d : Declaration} (hd : d ∈ declared)
    (hnot : ¬ ReflTransGen (Connects declared) .root d.output.id) :
    ∃ path, DetachedCycle declared d.output.id path := by
  have hstart : Behind declared d.output.id d.output.id := ⟨⟨d, hd, rfl⟩, hnot, .refl⟩
  have houtputs : ∀ v, Behind declared d.output.id v → v ∈ declared.map fun b => b.output.id :=
    fun v hv => List.mem_map.mpr hv.is_output
  obtain ⟨path, hcycle, hpath⟩ := Graph.exists_isCycle_of_backwards houtputs
    (fun w hw => hw.exists_predecessor hbranches) hstart
  exact ⟨path, hcycle, hpath⟩

theorem IsDeclaredBy.reached_of_not_hasCycle (h : g.IsDeclaredBy description declared)
    (hacyclic : ¬ Graph.HasCycle (Connects declared)) :
    ∀ d ∈ declared, ReflTransGen (Connects declared) .root d.output.id := by
  intro d hd
  by_contra hnot
  obtain ⟨path, hpath⟩ := exists_detachedCycle h.branches hd hnot
  exact hacyclic hpath.cycle.hasCycle

/-! ## What construction reports -/

theorem LinkFault.ne_unreachable {i : Nat} {e : DefinitionError}
    (h : LinkFault description declared i e) (id : CoupletId) : e ≠ .unreachable id := by
  cases h with
  | conflict => exact nofun
  | input _ _ _ fault => cases fault <;> exact nofun

/-- Where the errors of declarations are located as such, only an unchecked graph is refused for an
unreachable couplet, and a detached cycle lies behind it. -/
theorem exists_detachedCycle_of_assemble {check : Bool}
    {locate : Nat → DefinitionError → DefinitionError} {id : CoupletId}
    (hlocate : ∀ i e, LinkFault description declared i e → locate i e ≠ .unreachable id)
    (h : assemble description declared check locate = .error (.unreachable id)) :
    check = false ∧ ∃ path, DetachedCycle declared id path := by
  unfold assemble at h
  rcases bind_eq_error_iff.mp h with h | ⟨g, hlink, h⟩
  · obtain ⟨i, e, hfault, he⟩ := linkFault_of_link h
    exact absurd he.symm (hlocate i e hfault)
  have hg := link_eq_ok_iff_isDeclaredBy.mp hlink
  rcases bind_eq_error_iff.mp h with h | ⟨⟨⟩, hcycles, h⟩
  · obtain ⟨-, path, he, -⟩ := checkCycles_eq_error hg h
    cases he
  rcases bind_eq_error_iff.mp h with h | ⟨⟨⟩, -, h⟩
  · obtain ⟨before, d, after, hsplit, he, hnot, -⟩ := checkReach_eq_error hg h
    cases he
    have hd : d ∈ declared := by simp [hsplit]
    obtain ⟨path, hpath⟩ := exists_detachedCycle hg.branches hd hnot
    refine ⟨?_, path, hpath⟩
    by_contra hcheck
    rw [Bool.not_eq_false] at hcheck
    exact (checkCycles_eq_ok_iff_not_hasCycle hg).mp hcycles hcheck hpath.cycle.hasCycle
  · cases h

theorem exists_detachedCycle_of_ofDeclarations {check : Bool} {id : CoupletId}
    (h : ofDeclarations description declared check = .error (.unreachable id)) :
    check = false ∧ ∃ path, DetachedCycle declared id path :=
  exists_detachedCycle_of_assemble (fun _ _ hfault => hfault.ne_unreachable id) h

theorem exists_detachedCycle_of_ofRows {rows : List Record} {settings : Settings} {id : CoupletId}
    (h : ofRows rows settings = .error (.unreachable id)) :
    settings.checkCycles = false ∧ ∃ declared, List.Forall₂ Record.Declares rows declared ∧
      ∃ path, DetachedCycle declared id path := by
  unfold ofRows at h
  rcases bind_eq_error_iff.mp h with h | ⟨declared, hrows, h⟩
  · -- the error of a row that cannot be read names the row
    obtain ⟨before, row, after, e, -, -, -, he⟩ := mapNumbered_eq_error h
    cases he
  have hlocate : ∀ i e, LinkFault settings.description declared i e →
      locateIn rows i e ≠ .unreachable id := by
    intro i e hfault
    unfold locateIn
    cases rows[i]? with
    | some row => exact nofun
    | none => exact hfault.ne_unreachable id
  obtain ⟨hcheck, hpath⟩ := exists_detachedCycle_of_assemble hlocate h
  exact ⟨hcheck, declared, declares_iff_mapNumbered.mp hrows, hpath⟩

/-- Construction with the cycle check reports no couplet as unreachable: the root of a linked graph
without cycles leads to all its couplets. Without the check an unreachable couplet is reported only
where a cycle leads to it that the root does not lead to. -/
theorem unreachable_spec :
    (∀ description declared id,
        ofDeclarations description declared true ≠ .error (.unreachable id)) ∧
      (∀ rows settings id, settings.checkCycles = true →
        ofRows rows settings ≠ .error (.unreachable id)) ∧
      (∀ description declared locate g, link description declared locate = .ok g →
        ¬ Graph.HasCycle g.Joins →
        (∀ id ∈ g.ids, ReflTransGen g.Joins .root id) ∧ g.checkReach = .ok ()) ∧
      (∀ description declared id,
        ofDeclarations description declared false = .error (.unreachable id) →
        ∃ path, DetachedCycle declared id path) ∧
      ∀ rows settings id, settings.checkCycles = false →
        ofRows rows settings = .error (.unreachable id) →
        ∃ declared, List.Forall₂ Record.Declares rows declared ∧
          ∃ path, DetachedCycle declared id path := by
  refine ⟨fun description declared id h => ?_, fun rows settings id hcheck h => ?_,
    fun description declared locate g hlink hacyclic => ?_,
    fun description declared id h => (exists_detachedCycle_of_ofDeclarations h).2,
    fun rows settings id _ h => (exists_detachedCycle_of_ofRows h).2⟩
  · cases (exists_detachedCycle_of_ofDeclarations h).1
  · have hfalse := (exists_detachedCycle_of_ofRows h).1
    rw [hcheck] at hfalse
    cases hfalse
  · have hg := link_eq_ok_iff_isDeclaredBy.mp hlink
    rw [hg.joins_eq] at hacyclic ⊢
    have hreached := hg.reached_of_not_hasCycle hacyclic
    refine ⟨fun id hid => ?_, (checkReach_eq_ok_iff hg).mpr hreached⟩
    rcases hg.mem_ids_iff.mp hid with rfl | ⟨d, hd, rfl⟩
    · exact .refl
    · exact hreached d hd

/-- The table of `detachedLoop`. -/
def detachedRows : List Record :=
  [.ofList [("INPUT_COUPLET", .integer 0), ("RULES", .text "1"), ("OUTPUT_CLASS", .integer 9),
      ("OUTPUT_NAME", .text "Leaf")],
    .ofList [("INPUT_COUPLET", .integer 5), ("RULES", .text "1"), ("OUTPUT_COUPLET", .integer 6),
      ("OUTPUT_NAME", .text "B")],
    .ofList [("INPUT_COUPLET", .integer 6), ("RULES", .text "1"), ("OUTPUT_COUPLET", .integer 5),
      ("OUTPUT_NAME", .text "A")]]

theorem detachedCycle_detachedRows :
    (∀ id, ofRows detachedRows ⟨"Key", none, true, none⟩ ≠ .error (.unreachable id)) ∧
      (∃ g, link "Key" (detachedLoop.take 1) (fun _ e => e) = .ok g ∧ g.checkReach = .ok ()) ∧
      ofDeclarations "Key" detachedLoop false = .error (.unreachable (.number 6)) ∧
      (∃ path, DetachedCycle detachedLoop (.number 6) path) ∧
      ofRows detachedRows ⟨"Key", none, false, none⟩ = .error (.unreachable (.number 6)) ∧
      ∃ declared, List.Forall₂ Record.Declares detachedRows declared ∧
        ∃ path, DetachedCycle declared (.number 6) path := by
  obtain ⟨-, hchecked, hacyclic, hdeclared, hrows⟩ := unreachable_spec
  have hleaf : ∃ g, link "Key" (detachedLoop.take 1) (fun _ e => e) = .ok g ∧
      ∀ e ∈ g.edges, e.source.id = .root ∧ e.target.id ≠ .root := ⟨_, rfl, by decide⟩
  obtain ⟨g, hg, hedges⟩ := hleaf
  have hnone : ¬ Graph.HasCycle g.Joins := by
    refine Graph.not_hasCycle_of_rank (fun id => if id = .root then 0 else 1) ?_
    rintro _ _ ⟨e, he, rfl, rfl⟩
    simp [hedges e he]
  have hloop : ofDeclarations "Key" detachedLoop false = .error (.unreachable (.number 6)) := rfl
  have htable : ofRows detachedRows ⟨"Key", none, false, none⟩ =
      .error (.unreachable (.number 6)) := rfl
  exact ⟨fun id => hchecked _ _ id rfl, ⟨g, hg, (hacyclic _ _ _ g hg hnone).2⟩, hloop,
    hdeclared _ _ _ hloop, htable, hrows _ _ _ rfl htable⟩

end DecisionGraph

end ClassificationKey
