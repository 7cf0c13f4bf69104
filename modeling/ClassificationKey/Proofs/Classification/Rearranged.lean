import ClassificationKey.Proofs.Classification.Walk
import ClassificationKey.Proofs.Graph.Arrow
import ClassificationKey.Proofs.Graph.Table
import ClassificationKey.Proofs.Simulation

/-!
# Keys whose rows stand in another order

Two graphs are rearranged when they have the same number of couplets and the same arrows, in one order
or another. All guards of a couplet are evaluated, whatever the others come to, so which couplet comes
next does not depend on their order (`simulates_advance`), and rearranged graphs classify alike. Graphs
of the same declarations in another order are rearranged, and so are those of the same rows
(`classifiesAlike_of_perm`).
-/

namespace ClassificationKey

/-! ## Outcomes that are alike -/

/-- The couplets are the same node, in the same role; their names may differ. -/
structure Couplet.Alike (c d : Couplet) : Prop where
  id_eq : c.id = d.id
  kind_eq : c.kind = d.kind

theorem Couplet.Alike.isTerminal_eq {c d : Couplet} (h : c.Alike d) :
    c.isTerminal = d.isTerminal := by
  rw [isTerminal, isTerminal, h.kind_eq]

/-- The failures are of one kind, with the same limit, or with the same matching expressions at the
same couplet. -/
inductive ClassifyFailure.Alike : ClassifyFailure → ClassifyFailure → Prop where
  | noMatch : Alike .noMatch .noMatch
  | ambiguous {c d : Couplet} {es fs : List String} (id_eq : c.id = d.id) (perm : es.Perm fs) :
      Alike (.ambiguous c es) (.ambiguous d fs)
  | limit (n : Nat) : Alike (.limit n) (.limit n)
  | eval (e f : EvalError) : Alike (.eval e) (.eval f)

structure ClassifyError.Alike (e f : ClassifyError) : Prop where
  record_eq : e.record = f.record
  recordId_eq : e.recordId = f.recordId
  path_eq : e.path.map Couplet.id = f.path.map Couplet.id
  failure : e.failure.Alike f.failure

structure Classification.Alike (c d : Classification) : Prop where
  result : c.result.Alike d.result
  steps_eq : (c.steps.map fun s => s.couplet.id) = d.steps.map fun s => s.couplet.id
  recordId_eq : c.recordId = d.recordId

/-- The walks end alike, at the same couplets. -/
structure WalksAlike (w w' : Except ClassifyFailure Couplet × List Couplet) : Prop where
  outcome : Simulates ClassifyFailure.Alike Couplet.Alike w.1 w'.1
  path_eq : w.2.map Couplet.id = w'.2.map Couplet.id

theorem WalksAlike.cons {w w' : Except ClassifyFailure Couplet × List Couplet} {d d' : Couplet}
    (hd : d.Alike d') (h : WalksAlike w w') : WalksAlike (w.1, d :: w.2) (w'.1, d' :: w'.2) where
  outcome := h.outcome
  path_eq := by rw [List.map_cons, List.map_cons, hd.id_eq, h.path_eq]

theorem Classification.map_id_steps_ofPath (c : Couplet) (path : List Couplet)
    (id : Option Value) : ((ofPath c path id).steps.map fun s => s.couplet.id) =
      path.map Couplet.id := by
  conv_rhs => rw [← List.zipIdx_map_fst 0 path]
  rw [ofPath, List.map_map, List.map_map]
  rfl

/-! ## Edges by their arrows -/

namespace Arrow

variable (rules : RuleSet) (record : Record)

/-- The truth value of the guard that stands at the arrow, or why it has none. -/
def truth (a : Arrow) : Except EvalError Bool :=
  rules.evaluateOutcome (Guard.compile a.expression) record

/-- The guard has a truth value, and is true. -/
def isTrue (a : Arrow) : Bool :=
  match a.truth rules record with
  | .ok b => b
  | .error _ => false

end Arrow

variable {rules : RuleSet} {record : Record}

theorem Edge.truth_arrow (e : Edge) : e.arrow.truth rules record = e.truth rules record := by
  rw [Arrow.truth, Edge.truth, e.guard_eq]
  rfl

theorem Edge.isTrue_arrow (e : Edge) : e.arrow.isTrue rules record = e.isTrue rules record := by
  rw [Arrow.isTrue, e.truth_arrow]
  rfl

namespace DecisionGraph

variable {g g' : DecisionGraph}

theorem map_arrow_children (g : DecisionGraph) (id : CoupletId) :
    (g.children id).map Edge.arrow = (g.edges.map Edge.arrow).filter fun a => a.input == id := by
  rw [List.filter_map]
  rfl

theorem map_arrow_filter (es : List Edge) :
    (es.filter (Edge.isTrue rules record)).map Edge.arrow =
      (es.map Edge.arrow).filter (Arrow.isTrue rules record) := by
  have hpred : Arrow.isTrue rules record ∘ Edge.arrow = Edge.isTrue rules record :=
    funext Edge.isTrue_arrow
  rw [List.filter_map, hpred]

theorem forall_truth_of_perm {es es' : List Edge}
    (hperm : (es.map Edge.arrow).Perm (es'.map Edge.arrow))
    (h : ∀ e ∈ es, ∃ b, e.truth rules record = .ok b) :
    ∀ e ∈ es', ∃ b, e.truth rules record = .ok b := by
  intro e he
  obtain ⟨f, hf, harrow⟩ := List.mem_map.mp (hperm.mem_iff.mpr (List.mem_map_of_mem he))
  obtain ⟨b, hb⟩ := h f hf
  exact ⟨b, by rw [← e.truth_arrow, ← harrow, f.truth_arrow, hb]⟩

/-- The edges that match have the same arrows, if all guards have a truth value. -/
theorem simulates_matching (rules : RuleSet) (record : Record) {es es' : List Edge}
    (hperm : (es.map Edge.arrow).Perm (es'.map Edge.arrow)) :
    Simulates (fun _ _ => True) (fun ms ms' => (ms.map Edge.arrow).Perm (ms'.map Edge.arrow))
      (matching rules record es) (matching rules record es') := by
  refine simulates_of_ok (fun ms hms => ?_) (fun ms' hms' => ?_)
  · obtain ⟨hall, rfl⟩ := matching_eq_ok_iff.mp hms
    refine ⟨_, matching_eq_ok_iff.mpr ⟨forall_truth_of_perm hperm hall, rfl⟩, ?_⟩
    rw [map_arrow_filter, map_arrow_filter]
    exact hperm.filter _
  · have hall := forall_truth_of_perm hperm.symm (matching_eq_ok_iff.mp hms').1
    exact ⟨_, matching_eq_ok_iff.mpr ⟨hall, rfl⟩⟩

/-! ## Walks -/

/-- The graphs have the same number of couplets and the same arrows, in one order or another. -/
structure Rearranged (g g' : DecisionGraph) : Prop where
  root : g.root.Alike g'.root
  nodeCount_eq : g.nodeCount = g'.nodeCount
  arrows : (g.edges.map Edge.arrow).Perm (g'.edges.map Edge.arrow)

theorem walksAlike_of_terminal (limit limit' n n' : Nat) {c c' : Couplet} (hc : c.Alike c')
    (hterminal : c.isTerminal = true) :
    WalksAlike (g.walkFrom rules record limit n c) (g'.walkFrom rules record limit' n' c') := by
  rw [walkFrom_of_terminal limit hterminal,
    walkFrom_of_terminal limit' (hc.isTerminal_eq.symm.trans hterminal)]
  exact ⟨.ok hc, rfl⟩

/-- Where the walks from the roots are alike, so are the classifications. -/
theorem simulates_classify_of_walksAlike {settings : Settings} (hroot : g.root.Alike g'.root)
    (hwalk : WalksAlike
      (g.walkFrom rules record (g.stepLimit settings) (g.stepLimit settings) g.root)
      (g'.walkFrom rules record (g'.stepLimit settings) (g'.stepLimit settings) g'.root)) :
    Simulates ClassifyError.Alike Classification.Alike (g.classify rules record settings)
      (g'.classify rules record settings) := by
  rw [classify, classify]
  generalize g.walkFrom rules record _ _ g.root = w at hwalk
  generalize g'.walkFrom rules record _ _ g'.root = w' at hwalk
  obtain ⟨outcome, path⟩ := w
  obtain ⟨outcome', path'⟩ := w'
  obtain ⟨houtcome, hids⟩ := hwalk.cons hroot
  cases houtcome with
  | ok hresult =>
    refine .ok ⟨hresult, ?_, rfl⟩
    rwa [Classification.map_id_steps_ofPath, Classification.map_id_steps_ofPath]
  | error hfailure => exact .error ⟨rfl, rfl, hids, hfailure⟩

namespace Rearranged

variable (h : g.Rearranged g')
include h

theorem simulates_advance (rules : RuleSet) (record : Record) {c c' : Couplet}
    (hc : c.Alike c') :
    Simulates ClassifyFailure.Alike Couplet.Alike (g.advance rules record c)
      (g'.advance rules record c') := by
  have hchildren : ((g.children c.id).map Edge.arrow).Perm ((g'.children c'.id).map Edge.arrow) := by
    rw [map_arrow_children, map_arrow_children, hc.id_eq]
    exact h.arrows.filter _
  have hmatching := simulates_matching rules record hchildren
  rw [advance, advance]
  generalize matching rules record (g.children c.id) = x at hmatching
  generalize matching rules record (g'.children c'.id) = y at hmatching
  cases hmatching with
  | error _ => exact .error (.eval _ _)
  | @ok ms ms' hperm =>
    -- none, one or several edges match
    rcases ms with _ | ⟨e, _ | ⟨f, es⟩⟩
    · obtain rfl := List.map_eq_nil_iff.mp (List.nil_perm.mp hperm)
      exact .error .noMatch
    · obtain ⟨e', rfl, harrow⟩ := List.map_eq_singleton_iff.mp (List.singleton_perm.mp hperm).symm
      exact .ok ⟨congrArg Arrow.output harrow.symm, congrArg Arrow.kind harrow.symm⟩
    · have hlength := hperm.length_eq
      have hexpressions := hperm.map Arrow.expression
      rw [List.map_map, List.map_map] at hexpressions
      rcases ms' with _ | ⟨e', _ | ⟨f', es'⟩⟩
      · simp at hlength
      · simp at hlength
      · exact .error (.ambiguous hc.id_eq hexpressions)

theorem walksAlike_walkFrom (rules : RuleSet) (record : Record) (limit n : Nat)
    {c c' : Couplet} (hc : c.Alike c') :
    WalksAlike (g.walkFrom rules record limit n c) (g'.walkFrom rules record limit n c') := by
  induction n generalizing c c' with
  | zero =>
    cases hterminal : c.isTerminal with
    | true => exact walksAlike_of_terminal limit limit 0 0 hc hterminal
    | false =>
      rw [walkFrom_zero limit hterminal,
        walkFrom_zero limit (hc.isTerminal_eq.symm.trans hterminal)]
      exact ⟨.error (.limit limit), rfl⟩
  | succ n ih =>
    cases hterminal : c.isTerminal with
    | true => exact walksAlike_of_terminal limit limit _ _ hc hterminal
    | false =>
      have hadvance := h.simulates_advance rules record hc
      rw [walkFrom_succ limit hterminal,
        walkFrom_succ limit (hc.isTerminal_eq.symm.trans hterminal)]
      generalize g.advance rules record c = x at hadvance
      generalize g'.advance rules record c' = y at hadvance
      cases hadvance with
      | error hfailure => exact ⟨.error hfailure, rfl⟩
      | ok hd => exact (ih hd).cons hd

theorem simulates_classify (rules : RuleSet) (record : Record) (settings : Settings) :
    Simulates ClassifyError.Alike Classification.Alike (g.classify rules record settings)
      (g'.classify rules record settings) := by
  have hlimit : g.stepLimit settings = g'.stepLimit settings := by
    rw [stepLimit, stepLimit, h.nodeCount_eq]
  refine simulates_classify_of_walksAlike h.root ?_
  rw [hlimit]
  exact h.walksAlike_walkFrom rules record _ _ h.root

end Rearranged

/-! ## Construction -/

/-- Whatever the rules, the record and the settings are, the outcomes in both graphs are alike. -/
def ClassifiesAlike (g g' : DecisionGraph) : Prop :=
  ∀ (rules : RuleSet) (record : Record) (settings : Settings),
    Simulates ClassifyError.Alike Classification.Alike (g.classify rules record settings)
      (g'.classify rules record settings)

variable {description : String} {declared declared' : List Declaration}

theorem IsDeclaredBy.root_alike {description' : String}
    (h : g.IsDeclaredBy description declared) (h' : g'.IsDeclaredBy description' declared') :
    g.root.Alike g'.root := by
  rw [h.root_eq, h'.root_eq]
  exact ⟨rfl, rfl⟩

theorem IsDeclaredBy.rearranged (h : g.IsDeclaredBy description declared)
    (h' : g'.IsDeclaredBy description declared') (hperm : declared.Perm declared') :
    g.Rearranged g' where
  root := h.root_alike h'
  nodeCount_eq := by
    rw [← length_ids, ← length_ids]
    exact (h.ids_perm h' hperm).length_eq
  arrows := by
    rw [h.map_arrow, h'.map_arrow]
    exact hperm.map Declaration.arrow

/-- Declarations in another order make a graph that classifies alike, or none if they make none. -/
theorem simulates_assemble (description : String) (hperm : declared.Perm declared')
    (check : Bool) (locate locate' : Nat → DefinitionError → DefinitionError) :
    Simulates (fun _ _ => True) ClassifiesAlike (assemble description declared check locate)
      (assemble description declared' check locate') := by
  refine simulates_of_ok (fun g hg => ?_) (fun g' hg' => ?_)
  · have hwell := (exists_assemble_iff.mp ⟨g, hg⟩).of_perm hperm
    obtain ⟨g', hg'⟩ := exists_assemble_iff.mpr hwell
    have hrearranged :=
      (isDeclaredBy_of_assemble hg).rearranged (isDeclaredBy_of_assemble hg') hperm
    exact ⟨g', hg', hrearranged.simulates_classify⟩
  · exact exists_assemble_iff.mpr ((exists_assemble_iff.mp ⟨g', hg'⟩).of_perm hperm.symm)

variable {rows rows' : List Record} {settings : Settings}

/-- Rows in another order write the same declarations, in that order. -/
theorem exists_ofRows_of_perm (hperm : rows.Perm rows') (hg : ofRows rows settings = .ok g) :
    ∃ g', ofRows rows' settings = .ok g' ∧ g.ClassifiesAlike g' := by
  obtain ⟨declared, hrows, hg⟩ := ofRows_eq_ok_iff_assemble.mp hg
  obtain ⟨declared', hrows', hdeclared⟩ := List.perm_comp_forall₂ hperm.symm hrows
  have hsimulates := simulates_assemble settings.description hdeclared.symm settings.checkCycles
    (locateIn rows) (locateIn rows')
  rw [hg] at hsimulates
  obtain ⟨g', hg', halike⟩ := hsimulates.exists_of_eq_ok
  exact ⟨g', ofRows_eq_ok_iff_assemble.mpr ⟨declared', hrows', hg'⟩, halike⟩

/-- The order does not matter, neither of declarations nor of the rows of a key table: in another
order they either make no graph as well, or one in which every classification is alike. -/
theorem classifiesAlike_of_perm :
    (∀ description declared declared' check, declared.Perm declared' →
      Simulates (fun _ _ => True) ClassifiesAlike (ofDeclarations description declared check)
        (ofDeclarations description declared' check)) ∧
      ∀ rows rows' settings, rows.Perm rows' →
        Simulates (fun _ _ => True) ClassifiesAlike (ofRows rows settings)
          (ofRows rows' settings) := by
  constructor
  · intro description declared declared' check hperm
    exact simulates_assemble description hperm check _ _
  · intro rows rows' settings hperm
    refine simulates_of_ok (fun g hg => exists_ofRows_of_perm hperm hg) ?_
    intro g' hg'
    obtain ⟨g, hg, -⟩ := exists_ofRows_of_perm hperm.symm hg'
    exact ⟨g, hg⟩

/-- Two edges lead to one couplet, which they describe by different names. -/
def twoNames : List Declaration :=
  [⟨.number 0, "1", ⟨.number 1, .branch, "Shape", ""⟩⟩,
    ⟨.number 0, "2", ⟨.number 1, .branch, "Form", ""⟩⟩,
    ⟨.number 1, "not 2", ⟨.text "R", .terminal, "Round", ""⟩⟩]

theorem classifiesAlike_twoNames :
    twoNames.Perm twoNames.reverse ∧
      ∃ g g', ofDeclarations "Key" twoNames false = .ok g ∧
        ofDeclarations "Key" twoNames.reverse false = .ok g' ∧ g.ClassifiesAlike g' := by
  obtain ⟨g, hg⟩ : ∃ g, ofDeclarations "Key" twoNames false = .ok g := ⟨_, rfl⟩
  have hperm : twoNames.Perm twoNames.reverse := (List.reverse_perm twoNames).symm
  have hsimulates := classifiesAlike_of_perm.1 "Key" twoNames twoNames.reverse false hperm
  rw [hg] at hsimulates
  obtain ⟨g', hg', halike⟩ := hsimulates.exists_of_eq_ok
  exact ⟨hperm, g, g', hg, hg', halike⟩

end DecisionGraph

end ClassificationKey
