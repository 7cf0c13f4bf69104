import ClassificationKey.Proofs.Classification.Bound
import ClassificationKey.Proofs.Classification.Rearranged

/-!
# Keys with more edges

One graph extends another when it has all of its arrows, in their order, and no fewer couplets. All
guards of a couplet are evaluated, so the one that was true still is, and an edge that is new can only
stop the walk: its guard is true as well, or cannot be evaluated (`Extends.advance_alike_or_cut`). A
record that was classified is therefore classified by the same couplets, or not at all: it does not
come to another class (`preserves_of_sublist`).
-/

namespace ClassificationKey

/-! ## Walks that are cut short -/

/-- Why a new edge stops the walk at a couplet: several guards are true there, or one cannot be
evaluated. -/
inductive ClassifyFailure.CutsAt (c : Couplet) : ClassifyFailure → Prop where
  | ambiguous (expressions : List String) : CutsAt c (.ambiguous c expressions)
  | eval (err : EvalError) : CutsAt c (.eval err)

/-- The path of the error is a proper part of the walk along `ids`, from its start; at the last couplet
of the path the walk is cut. -/
structure ClassifyError.CutsShort (e : ClassifyError) (ids : List CoupletId) : Prop where
  along : e.path.map Couplet.id <+: ids
  shorter : e.path.length < ids.length
  last : ∃ c, e.path.getLast? = some c ∧ e.failure.CutsAt c

/-- A walk on from `c` that goes along a path and is cut before the end of it. -/
structure WalkCut (c : Couplet) (path : List Couplet)
    (w : Except ClassifyFailure Couplet × List Couplet) : Prop where
  along : w.2.map Couplet.id <+: path.map Couplet.id
  shorter : w.2.length < path.length
  last : ∃ d failure, (c :: w.2).getLast? = some d ∧ w.1 = .error failure ∧ failure.CutsAt d

theorem WalkCut.here {c d : Couplet} {failure : ClassifyFailure} (h : failure.CutsAt c)
    (path : List Couplet) : WalkCut c (d :: path) (.error failure, []) where
  along := List.nil_prefix
  shorter := Nat.zero_lt_succ _
  last := ⟨c, failure, rfl, rfl, h⟩

theorem WalkCut.cons {c d d' : Couplet} {path : List Couplet}
    {w : Except ClassifyFailure Couplet × List Couplet} (hd : d.Alike d') (h : WalkCut d' path w) :
    WalkCut c (d :: path) (w.1, d' :: w.2) where
  along := by
    rw [List.map_cons, List.map_cons, hd.id_eq]
    exact List.cons_prefix_cons.mpr ⟨rfl, h.along⟩
  shorter := Nat.succ_lt_succ h.shorter
  last := by
    obtain ⟨last, failure, hlast, hfailure, hcuts⟩ := h.last
    exact ⟨last, failure, by rwa [List.getLast?_cons_cons], hfailure, hcuts⟩

namespace DecisionGraph

variable {g g' : DecisionGraph} {rules : RuleSet} {record : Record}

theorem exists_matching_of_advance {c d : Couplet} (h : g.advance rules record c = .ok d) :
    ∃ e, matching rules record (g.children c.id) = .ok [e] ∧ e.target = d := by
  rw [advance] at h
  cases hmatching : matching rules record (g.children c.id) with
  | error err =>
    rw [hmatching] at h
    cases h
  | ok es =>
    rw [hmatching] at h
    rcases es with _ | ⟨e, _ | ⟨f, es⟩⟩
    · cases h
    · cases h
      exact ⟨e, rfl, rfl⟩
    · cases h

/-- The second graph has the arrows of the first in their order, and at least as many couplets. -/
structure Extends (g g' : DecisionGraph) : Prop where
  root : g.root.Alike g'.root
  nodeCount_le : g.nodeCount ≤ g'.nodeCount
  arrows : (g.edges.map Edge.arrow).Sublist (g'.edges.map Edge.arrow)

namespace Extends

variable (h : g.Extends g')
include h

/-- A step that is taken in the smaller graph is taken in the larger one, or the walk is cut. -/
theorem advance_alike_or_cut {c c' d : Couplet} (hc : c.Alike c')
    (hadvance : g.advance rules record c = .ok d) :
    (∃ d', g'.advance rules record c' = .ok d' ∧ d.Alike d') ∨
      ∃ failure, g'.advance rules record c' = .error failure ∧ failure.CutsAt c' := by
  obtain ⟨e, hmatching, rfl⟩ := exists_matching_of_advance hadvance
  have hchildren :
      ((g.children c.id).map Edge.arrow).Sublist ((g'.children c'.id).map Edge.arrow) := by
    rw [map_arrow_children, map_arrow_children, hc.id_eq]
    exact h.arrows.filter _
  cases hmatching' : matching rules record (g'.children c'.id) with
  | error err => exact .inr ⟨_, by rw [advance, hmatching'], .eval err⟩
  | ok es' =>
    have htrue : e.arrow ∈ es'.map Edge.arrow := by
      have hsub := hchildren.filter (Arrow.isTrue rules record)
      rw [← map_arrow_filter, ← map_arrow_filter, ← (matching_eq_ok_iff.mp hmatching).2,
        ← (matching_eq_ok_iff.mp hmatching').2] at hsub
      exact List.singleton_sublist.mp hsub
    -- the edge that was taken is true still: alone, or with others
    rcases es' with _ | ⟨e', _ | ⟨f', es'⟩⟩
    · cases htrue
    · have harrow : e.arrow = e'.arrow := List.mem_singleton.mp htrue
      exact .inl ⟨e'.target, by rw [advance, hmatching'], congrArg Arrow.output harrow,
        congrArg Arrow.kind harrow⟩
    · exact .inr ⟨_, by rw [advance, hmatching'], .ambiguous _⟩

theorem walkFrom_alike_or_cut {limit n : Nat} {c c' r : Couplet} {path : List Couplet}
    (hc : c.Alike c') (hwalk : g.walkFrom rules record limit n c = (.ok r, path)) (limit' : Nat)
    {n' : Nat} (hn : n ≤ n') :
    WalksAlike (g.walkFrom rules record limit n c) (g'.walkFrom rules record limit' n' c') ∨
      WalkCut c' path (g'.walkFrom rules record limit' n' c') := by
  induction n generalizing c c' path n' with
  | zero =>
    cases hterminal : c.isTerminal with
    | true => exact .inl (walksAlike_of_terminal limit limit' 0 n' hc hterminal)
    | false =>
      rw [walkFrom_zero limit hterminal] at hwalk
      cases hwalk
  | succ n ih =>
    cases hterminal : c.isTerminal with
    | true => exact .inl (walksAlike_of_terminal limit limit' _ n' hc hterminal)
    | false =>
      have hpos : n' ≠ 0 := Nat.ne_of_gt (Nat.lt_of_lt_of_le n.succ_pos hn)
      obtain ⟨n', rfl⟩ := Nat.exists_eq_succ_of_ne_zero hpos
      have hopen := hc.isTerminal_eq.symm.trans hterminal
      rw [walkFrom_succ limit hterminal] at hwalk ⊢
      rw [walkFrom_succ limit' hopen]
      cases hadvance : g.advance rules record c with
      | error failure =>
        rw [hadvance] at hwalk
        cases hwalk
      | ok d =>
        rw [hadvance] at hwalk
        obtain ⟨hr, rfl⟩ := Prod.mk.inj hwalk
        rcases h.advance_alike_or_cut hc hadvance with ⟨d', hadvance', hd⟩ | ⟨failure, hfails, hcuts⟩
        · rw [hadvance']
          exact (ih hd (Prod.ext hr rfl) (Nat.le_of_succ_le_succ hn)).imp (.cons hd) (.cons hd)
        · rw [hfails]
          exact .inr (.here hcuts _)

theorem stepLimit_le (settings : Settings) : g.stepLimit settings ≤ g'.stepLimit settings := by
  unfold stepLimit
  cases settings.maxSteps with
  | none => exact Nat.mul_le_mul_left 2 h.nodeCount_le
  | some n => exact Nat.le_refl n

end Extends

/-! ## Classification -/

/-- What is classified in the first graph is classified by the same couplets in the second, or its walk
is cut short there. -/
def Preserves (g g' : DecisionGraph) : Prop :=
  ∀ (rules : RuleSet) (record : Record) (settings : Settings) (c : Classification),
    g.classify rules record settings = .ok c →
      (∃ c', g'.classify rules record settings = .ok c' ∧ c.Alike c') ∨
        ∃ e, g'.classify rules record settings = .error e ∧
          e.CutsShort (c.steps.map fun s => s.couplet.id)

theorem Extends.preserves (h : g.Extends g') : g.Preserves g' := by
  intro rules record settings c hc
  obtain ⟨r, path, hwalk, hclass⟩ := exists_walkFrom_of_classify hc
  rcases h.walkFrom_alike_or_cut h.root hwalk (g'.stepLimit settings) (h.stepLimit_le settings)
    with halike | hcut
  · have hsimulates := simulates_classify_of_walksAlike h.root halike
    rw [hc] at hsimulates
    exact .inl hsimulates.exists_of_eq_ok
  · obtain ⟨last, failure, hlast, hfails, hcuts⟩ := hcut.last
    rw [hclass, Classification.map_id_steps_ofPath, List.map_cons, h.root.id_eq]
    refine .inr ⟨_, classify_of_walkFrom (Prod.ext hfails rfl), ?_, ?_, last, hlast, hcuts⟩
    · exact List.cons_prefix_cons.mpr ⟨rfl, hcut.along⟩
    · simpa using hcut.shorter

/-! ## Construction -/

variable {description description' : String} {declared declared' : List Declaration}

theorem IsDeclaredBy.extends_of_sublist (h : g.IsDeclaredBy description declared)
    (h' : g'.IsDeclaredBy description' declared') (hsub : declared.Sublist declared') :
    g.Extends g' where
  root := h.root_alike h'
  nodeCount_le := by
    have hids : g.ids ⊆ g'.ids := by
      intro id hid
      rw [h.mem_ids_iff] at hid
      rw [h'.mem_ids_iff]
      exact hid.imp_right fun ⟨d, hd, houtput⟩ => ⟨d, hsub.subset hd, houtput⟩
    rw [← length_ids, ← length_ids]
    exact (h.nodup_ids.subperm hids).length_le
  arrows := by
    rw [h.map_arrow, h'.map_arrow]
    exact hsub.map _

theorem preserves_of_assemble {check check' : Bool}
    {locate locate' : Nat → DefinitionError → DefinitionError} (hsub : declared.Sublist declared')
    (hg : assemble description declared check locate = .ok g)
    (hg' : assemble description' declared' check' locate' = .ok g') : g.Preserves g' :=
  ((isDeclaredBy_of_assemble hg).extends_of_sublist (isDeclaredBy_of_assemble hg') hsub).preserves

/-- Edges that are added to a key, anywhere among its declarations or the rows of its table, move no
record to another class: a record that was classified is classified by the same couplets, or its walk
is cut short at one of them, where several guards are true or one cannot be evaluated. -/
theorem preserves_of_sublist :
    (∀ description description' declared declared' check check' g g',
      declared.Sublist declared' → ofDeclarations description declared check = .ok g →
        ofDeclarations description' declared' check' = .ok g' → g.Preserves g') ∧
      ∀ rows rows' settings settings' g g', rows.Sublist rows' → ofRows rows settings = .ok g →
        ofRows rows' settings' = .ok g' → g.Preserves g' := by
  constructor
  · intro description description' declared declared' check check' g g' hsub hg hg'
    exact preserves_of_assemble hsub hg hg'
  · intro rows rows' settings settings' g g' hsub hg hg'
    obtain ⟨declared, hrows, hg⟩ := ofRows_eq_ok_iff_assemble.mp hg
    obtain ⟨declared', hrows', hg'⟩ := ofRows_eq_ok_iff_assemble.mp hg'
    have hdeclared : declared.Sublist declared' :=
      sublist_of_forall₂ (R := Record.Declares) (fun _ _ _ => Record.Declares.unique) hsub hrows
        hrows'
    exact preserves_of_assemble hdeclared hg hg'

/-- The questions of `twoSteps`, with a further edge at each of the two couplets. -/
def furtherSteps : List Declaration :=
  [⟨.number 0, "2", ⟨.text "L", .terminal, "Large", ""⟩⟩,
    ⟨.number 0, "1", ⟨.number 1, .branch, "Shape", ""⟩⟩,
    ⟨.number 1, "1", ⟨.text "A", .terminal, "Any", ""⟩⟩,
    ⟨.number 1, "not 2", ⟨.text "R", .terminal, "Round", ""⟩⟩]

theorem preserves_furtherSteps :
    twoSteps.Sublist furtherSteps ∧
      ∃ g g', ofDeclarations "Key" twoSteps false = .ok g ∧
        ofDeclarations "More" furtherSteps false = .ok g' ∧
        ∃ c, g.classify sizeRules (.ofList [("size", .text "s")]) {} = .ok c ∧
          ∃ e, g'.classify sizeRules (.ofList [("size", .text "s")]) {} = .error e ∧
            e.CutsShort (c.steps.map fun s => s.couplet.id) := by
  have hsub : twoSteps.Sublist furtherSteps := by decide
  obtain ⟨g, hg, hok⟩ : ∃ g, ofDeclarations "Key" twoSteps false = .ok g ∧
      (g.classify sizeRules (.ofList [("size", .text "s")]) {}).isOk = true :=
    ⟨_, rfl, by decide +kernel⟩
  obtain ⟨g', hg', hfails⟩ : ∃ g', ofDeclarations "More" furtherSteps false = .ok g' ∧
      (g'.classify sizeRules (.ofList [("size", .text "s")]) {}).isOk = false :=
    ⟨_, rfl, by decide +kernel⟩
  have hpreserves := preserves_of_sublist.1 "Key" "More" _ _ _ _ g g' hsub hg hg'
  obtain ⟨c, hc⟩ := exists_eq_ok_of_isOk hok
  refine ⟨hsub, g, g', hg, hg', c, hc, ?_⟩
  rcases hpreserves _ _ _ c hc with ⟨c', hc', -⟩ | hcut
  · rw [hc'] at hfails
    cases hfails
  · exact hcut

end DecisionGraph

end ClassificationKey
