import ClassificationKey.Proofs.Classification.Bound

/-!
# Walks without end

The couplet where a record is determines the one that comes next, so a walk that meets a couplet twice
goes round for ever (`exists_walk_of_loop`), and every bound ends it
(`IsWalk.exists_classify_eq_limit`). A walk of more couplets than the graph has does meet one twice.
So a bound that is not below the number of couplets ends only walks that have no end, and to all
others it makes no difference which one it is (`classify_of_nodeCount_le`).
-/

namespace ClassificationKey.DecisionGraph

open Relation

variable {g : DecisionGraph} {rules : RuleSet} {record : Record} {settings : Settings}

/-! ## Going round -/

/-- From a couplet that leads to one that leads back to itself there are walks of any length. -/
theorem exists_walk_of_loop {v : Couplet} (hloop : TransGen (g.Follows rules record) v v) (n : Nat)
    {c : Couplet} (hc : TransGen (g.Follows rules record) c v) :
    ∃ path d, (c :: path).IsChain (g.Follows rules record) ∧ (c :: path).getLast? = some d ∧
      path.length = n ∧ d.isTerminal = false := by
  obtain ⟨b, hcb, hbv⟩ := TransGen.head'_iff.mp hc
  induction n generalizing c b with
  | zero => exact ⟨[], c, .singleton c, rfl, rfl, hcb.not_terminal⟩
  | succ n ih =>
    obtain ⟨b', hbb', hb'v⟩ := TransGen.head'_iff.mp (TransGen.trans_right hbv hloop)
    obtain ⟨path, d, hchain, hlast, hlength, hd⟩ := ih (.head' hbb' hb'v) b' hbb' hb'v
    refine ⟨b :: path, d, List.isChain_cons_cons.mpr ⟨hcb, hchain⟩, ?_, ?_, hd⟩
    · rwa [List.getLast?_cons_cons]
    · rw [List.length_cons, hlength]

namespace IsWalk

variable {path : List Couplet} (h : g.IsWalk rules record path)
include h

/-- A walk that meets a couplet twice comes from the root to one that leads back to itself. -/
theorem exists_loop (hrepeats : ¬ path.Nodup) :
    ∃ v, TransGen (g.Follows rules record) v v ∧ TransGen (g.Follows rules record) g.root v := by
  have hpairwise : path.Pairwise (TransGen (g.Follows rules record)) :=
    List.isChain_iff_pairwise.mp (h.chain.imp fun _ _ => .single)
  obtain ⟨v, hv⟩ : ∃ v, [v, v].Sublist path := by
    by_contra hnone
    exact hrepeats (List.nodup_iff_sublist.mpr (not_exists.mp hnone))
  have hloop : TransGen (g.Follows rules record) v v := by
    simpa using hpairwise.sublist hv
  refine ⟨v, hloop, ?_⟩
  obtain ⟨rest, rfl⟩ := h.eq_cons
  rcases List.mem_cons.mp (hv.subset List.mem_cons_self) with rfl | hmem
  · exact hloop
  · exact (List.pairwise_cons.mp hpairwise).1 v hmem

/-- A walk that meets a couplet twice is ended by every bound. -/
theorem exists_classify_eq_limit (hrepeats : ¬ path.Nodup) (settings : Settings) :
    ∃ e, g.classify rules record settings = .error e ∧
      e.failure = .limit (g.stepLimit settings) := by
  obtain ⟨v, hloop, hroot⟩ := h.exists_loop hrepeats
  obtain ⟨rest, d, hchain, hlast, hlength, hd⟩ :=
    exists_walk_of_loop hloop (g.stepLimit settings) hroot
  exact ⟨_, classify_eq_of_outcome (.exhausted ⟨rfl, hchain⟩ hlast hd (congrArg (· + 1) hlength)),
    rfl⟩

end IsWalk

/-! ## Bounds that make no difference -/

/-- A walk that is ended by a bound which is not below the number of couplets has met one twice. -/
theorem Outcome.not_nodup_path {e : ClassifyError} {n : Nat}
    (h : g.Outcome rules record settings (.error e)) (hg : g.Linked) (he : e.failure = .limit n)
    (hle : g.nodeCount ≤ g.stepLimit settings) : ¬ e.path.Nodup := by
  intro hnodup
  have hlength := h.isWalk_path.length_le_of_nodup hg hnodup
  rw [h.length_of_limit he] at hlength
  exact absurd hle (Nat.not_le.mpr hlength)

/-- Where some bound does not end the walk, the walk meets no couplet twice. -/
theorem IsWalk.nodup_of_classify {path : List Couplet} (h : g.IsWalk rules record path)
    (hlimit : ∀ e n, g.classify rules record settings = .error e → e.failure ≠ .limit n) :
    path.Nodup := by
  by_contra hrepeats
  obtain ⟨e, he, hfailure⟩ := h.exists_classify_eq_limit hrepeats settings
  exact hlimit e _ he hfailure

/-- The outcome of a walk that meets no couplet twice, under another bound that is not below the
number of couplets, and with the records identified by the same attribute. -/
theorem Outcome.of_nodeCount_le (hg : g.Linked) {r : Except ClassifyError Classification}
    (h : g.Outcome rules record settings r)
    (hfinite : ∀ path, g.IsWalk rules record path → path.Nodup)
    (hlimit : ∀ e n, r = .error e → e.failure ≠ .limit n) {other : Settings}
    (hid : other.idField = settings.idField) (hother : g.nodeCount ≤ g.stepLimit other) :
    g.Outcome rules record other r := by
  have hrecordId : recordId settings record = recordId other record := by
    rw [recordId, recordId, hid]
  cases h with
  | reached walk last terminal within indexed =>
    have hlength := walk.length_le_of_nodup hg (hfinite _ walk)
    rw [hrecordId] at indexed ⊢
    exact .reached walk last terminal (Nat.le_succ_of_le (hlength.trans hother)) indexed
  | stopped walk last not_terminal within stops =>
    have hlength := walk.length_le_of_nodup hg (hfinite _ walk)
    rw [hrecordId]
    exact .stopped walk last not_terminal (hlength.trans hother) stops
  | exhausted => exact absurd rfl (hlimit _ _ rfl)

/-- On a graph that was built, with the cycle check or without: a classification that is ended by a
bound which is absent or not below the number of couplets has met a couplet twice, and is ended by
every bound; any other outcome, under whatever bound, is that under every bound which is absent or
not below the number of couplets. -/
theorem classify_of_nodeCount_le {check : Bool} (h : Built check g) (rules : RuleSet)
    (record : Record) (settings : Settings) :
    ((∀ n, settings.maxSteps = some n → g.nodeCount ≤ n) →
      ∀ e n, g.classify rules record settings = .error e → e.failure = .limit n →
        ¬ e.path.Nodup ∧ ∀ other, ∃ e', g.classify rules record other = .error e' ∧
          e'.failure = .limit (g.stepLimit other)) ∧
      ((∀ e n, g.classify rules record settings = .error e → e.failure ≠ .limit n) →
        ∀ other : Settings, other.idField = settings.idField →
          (∀ n, other.maxSteps = some n → g.nodeCount ≤ n) →
            g.classify rules record other = g.classify rules record settings) := by
  have houtcome := outcome_classify g rules record settings
  constructor
  · intro hmax e n he hlimit
    rw [he] at houtcome
    have hrepeats := houtcome.not_nodup_path h.linked hlimit (nodeCount_le_stepLimit hmax)
    exact ⟨hrepeats, houtcome.isWalk_path.exists_classify_eq_limit hrepeats⟩
  · intro hlimit other hid hmax
    have hfinite : ∀ path, g.IsWalk rules record path → path.Nodup := by
      intro path hwalk
      exact hwalk.nodup_of_classify hlimit
    have hother := nodeCount_le_stepLimit hmax
    exact classify_eq_of_outcome (houtcome.of_nodeCount_le h.linked hfinite hlimit hid hother)

/-- Two questions that lead to each other, and a way out for what is not large. -/
def roundabout : List Declaration :=
  [⟨.number 0, "1", ⟨.number 1, .branch, "Entry", ""⟩⟩,
    ⟨.number 1, "1", ⟨.number 2, .branch, "Exit?", ""⟩⟩,
    ⟨.number 2, "2", ⟨.number 1, .branch, "Entry", ""⟩⟩,
    ⟨.number 2, "not 2", ⟨.number 9, .terminal, "Out", ""⟩⟩]

theorem classify_roundabout :
    ∃ g, ofDeclarations "Loop" roundabout false = .ok g ∧
      (∃ e, g.classify sizeRules (.ofList [("size", .text "xl")]) {} = .error e ∧
        e.failure = .limit 8 ∧ ¬ e.path.Nodup ∧
        ∀ other, ∃ e', g.classify sizeRules (.ofList [("size", .text "xl")]) other = .error e' ∧
          e'.failure = .limit (g.stepLimit other)) ∧
      ∃ c, g.classify sizeRules (.ofList [("size", .text "s")]) { maxSteps := some 3 } = .ok c ∧
        g.classify sizeRules (.ofList [("size", .text "s")]) {} = .ok c := by
  obtain ⟨g, hg, hlarge, hsmall⟩ : ∃ g, ofDeclarations "Loop" roundabout false = .ok g ∧
      (match g.classify sizeRules (.ofList [("size", .text "xl")]) {} with
        | .ok _ => none
        | .error e => some e.failure) = some (.limit 8) ∧
      (g.classify sizeRules (.ofList [("size", .text "s")]) { maxSteps := some 3 }).isOk = true :=
    ⟨_, rfl, by decide +kernel, by decide +kernel⟩
  obtain ⟨hround, -⟩ := classify_of_nodeCount_le (.ofDeclarations hg) sizeRules
    (.ofList [("size", .text "xl")]) {}
  obtain ⟨-, hout⟩ := classify_of_nodeCount_le (.ofDeclarations hg) sizeRules
    (.ofList [("size", .text "s")]) { maxSteps := some 3 }
  refine ⟨g, hg, ?_, ?_⟩
  · cases he : g.classify sizeRules (.ofList [("size", .text "xl")]) {} with
    | ok c =>
      rw [he] at hlarge
      cases hlarge
    | error e =>
      rw [he] at hlarge
      have hfailure := Option.some.inj hlarge
      exact ⟨e, rfl, hfailure, hround nofun e 8 he hfailure⟩
  · cases hc : g.classify sizeRules (.ofList [("size", .text "s")]) { maxSteps := some 3 } with
    | error e =>
      rw [hc] at hsmall
      cases hsmall
    | ok c =>
      rw [hc] at hout
      exact ⟨c, rfl, hout nofun {} rfl nofun⟩

end ClassificationKey.DecisionGraph
