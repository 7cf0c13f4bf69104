import ClassificationKey.Classification
import ClassificationKey.Proofs.Row
import Mathlib.Data.List.Chain

/-!
# The walk of a record

The walk is described by itself, without a bound: `Follows` says which couplet comes after which, and
`Stops` why none does. `Outcome` says what a classification makes of the walk under a bound on its
steps, in terms of the couplets it visits; and that is what `classify` returns
(`classify_eq_iff_outcome`).
-/

namespace ClassificationKey

namespace Edge

variable (rules : RuleSet) (record : Record)

/-- The truth value of an edge's guard on a record, or why it has none. -/
def truth (e : Edge) : Except EvalError Bool := rules.evaluateOutcome e.guard record

/-- The guard has a truth value, and is true. -/
def isTrue (e : Edge) : Bool :=
  match e.truth rules record with
  | .ok b => b
  | .error _ => false

variable {rules record}

theorem truth_of_guard_eq {e : Edge} {guard : Guard.Compiled} (h : e.guard = .ok guard) :
    e.truth rules record = rules.evaluate guard record := by
  rw [truth, h]
  rfl

theorem isTrue_of_truth {e : Edge} {b : Bool} (h : e.truth rules record = .ok b) :
    e.isTrue rules record = b := by
  rw [isTrue, h]

theorem isTrue_iff {e : Edge} : e.isTrue rules record = true ↔ e.truth rules record = .ok true := by
  unfold isTrue
  cases e.truth rules record with
  | error err => simp
  | ok b => simp

end Edge

/-- The steps of a path are its couplets, numbered. -/
theorem Classification.getElem?_steps_ofPath (c : Couplet) (path : List Couplet)
    (id : Option Value) (i : Nat) :
    (ofPath c path id).steps[i]? = path[i]?.map fun d => ⟨i, d, id⟩ := by
  rw [ofPath, List.getElem?_map, List.getElem?_zipIdx, Option.map_map, Nat.zero_add]
  rfl

namespace DecisionGraph

variable (g : DecisionGraph) (rules : RuleSet) (record : Record)

/-- The edges from a couplet whose guards are true, in the order of their declarations. -/
def trueEdges (c : Couplet) : List Edge :=
  (g.children c.id).filter (Edge.isTrue rules record)

/-- The walk goes from `c` to `d`: of the edges from `c`, which is no class, just one has a true guard,
all others have false ones, and it leads to `d`. -/
structure Follows (c d : Couplet) : Prop where
  not_terminal : c.isTerminal = false
  sole : ∃ before e after, g.children c.id = before ++ e :: after ∧
    e.truth rules record = .ok true ∧ (∀ f ∈ before ++ after, f.truth rules record = .ok false) ∧
    e.target = d

/-- The walk does not go on from `c`: the first guard that has no truth value decides, and when there
is none, the number of true ones. -/
inductive Stops (c : Couplet) : ClassifyFailure → Prop where
  | eval {before after : List Edge} {e : Edge} {err : EvalError}
      (split : g.children c.id = before ++ e :: after)
      (earlier : ∀ f ∈ before, ∃ b, f.truth rules record = .ok b)
      (fails : e.truth rules record = .error err) : Stops c (.eval err)
  | noMatch (none_true : ∀ e ∈ g.children c.id, e.truth rules record = .ok false) :
      Stops c .noMatch
  | ambiguous (evaluated : ∀ e ∈ g.children c.id, ∃ b, e.truth rules record = .ok b)
      (several : 2 ≤ (g.trueEdges rules record c).length) :
      Stops c (.ambiguous c ((g.trueEdges rules record c).map Edge.expression))

/-- The couplets are the first ones of the walk. -/
structure IsWalk (path : List Couplet) : Prop where
  head : path.head? = some g.root
  chain : path.IsChain (g.Follows rules record)

/-- What a classification makes of the walk. A path of `n + 1` couplets takes `n` steps. -/
inductive Outcome (settings : Settings) : Except ClassifyError Classification → Prop where
  /-- The walk reaches a class within the bound. -/
  | reached {path : List Couplet} {c : Couplet} {steps : List Step}
      (walk : g.IsWalk rules record path) (last : path.getLast? = some c)
      (terminal : c.isTerminal = true) (within : path.length ≤ g.stepLimit settings + 1)
      (indexed : ∀ i : Nat, steps[i]? = path[i]?.map fun d => ⟨i, d, recordId settings record⟩) :
      Outcome settings (.ok ⟨c, steps, recordId settings record⟩)
  /-- The walk stops before the bound. -/
  | stopped {path : List Couplet} {c : Couplet} {failure : ClassifyFailure}
      (walk : g.IsWalk rules record path) (last : path.getLast? = some c)
      (not_terminal : c.isTerminal = false) (within : path.length ≤ g.stepLimit settings)
      (stops : g.Stops rules record c failure) :
      Outcome settings (.error ⟨record, recordId settings record, path, failure⟩)
  /-- The walk reaches the bound at a couplet that is no class. -/
  | exhausted {path : List Couplet} {c : Couplet}
      (walk : g.IsWalk rules record path) (last : path.getLast? = some c)
      (not_terminal : c.isTerminal = false) (full : path.length = g.stepLimit settings + 1) :
      Outcome settings
        (.error ⟨record, recordId settings record, path, .limit (g.stepLimit settings)⟩)

variable {g rules record}

/-! ## One step -/

theorem matching_cons_eq_bind (e : Edge) (es : List Edge) :
    matching rules record (e :: es) =
      (e.truth rules record >>= fun b =>
        matching rules record es >>= fun rest => .ok (if b then e :: rest else rest)) := by
  rw [matching, Edge.truth]
  cases rules.evaluateOutcome e.guard record with
  | error err => rfl
  | ok b => cases matching rules record es <;> rfl

theorem matching_eq_ok_iff {es ms : List Edge} :
    matching rules record es = .ok ms ↔
      (∀ e ∈ es, ∃ b, e.truth rules record = .ok b) ∧ ms = es.filter (Edge.isTrue rules record) := by
  induction es generalizing ms with
  | nil => simp [matching, eq_comm]
  | cons e es ih =>
    rw [matching_cons_eq_bind, bind_eq_ok_iff, List.forall_mem_cons, List.filter_cons]
    constructor
    · rintro ⟨b, hb, h⟩
      obtain ⟨rest, hrest, h⟩ := bind_eq_ok_iff.mp h
      obtain ⟨hall, rfl⟩ := ih.mp hrest
      rw [Edge.isTrue_of_truth hb]
      exact ⟨⟨⟨b, hb⟩, hall⟩, (Except.ok.inj h).symm⟩
    · rintro ⟨⟨⟨b, hb⟩, hall⟩, rfl⟩
      rw [Edge.isTrue_of_truth hb]
      exact ⟨b, hb, bind_eq_ok_iff.mpr ⟨_, ih.mpr ⟨hall, rfl⟩, rfl⟩⟩

theorem matching_eq_error {es : List Edge} {err : EvalError}
    (h : matching rules record es = .error err) :
    ∃ before e after, es = before ++ e :: after ∧
      (∀ f ∈ before, ∃ b, f.truth rules record = .ok b) ∧ e.truth rules record = .error err := by
  induction es with
  | nil => cases h
  | cons e es ih =>
    rw [matching_cons_eq_bind] at h
    rcases bind_eq_error_iff.mp h with he | ⟨b, hb, h⟩
    · exact ⟨[], e, es, rfl, by simp, he⟩
    · rcases bind_eq_error_iff.mp h with hes | ⟨rest, -, ⟨⟩⟩
      obtain ⟨before, f, after, rfl, hbefore, hf⟩ := ih hes
      exact ⟨e :: before, f, after, rfl, List.forall_mem_cons.mpr ⟨⟨b, hb⟩, hbefore⟩, hf⟩

theorem matching_of_first_error {before after : List Edge} {e : Edge} {err : EvalError}
    (hbefore : ∀ f ∈ before, ∃ b, f.truth rules record = .ok b)
    (he : e.truth rules record = .error err) :
    matching rules record (before ++ e :: after) = .error err := by
  induction before with
  | nil =>
    rw [List.nil_append, matching_cons_eq_bind, he]
    rfl
  | cons f before ih =>
    obtain ⟨⟨b, hb⟩, hbefore⟩ := List.forall_mem_cons.mp hbefore
    rw [List.cons_append, matching_cons_eq_bind, hb, ih hbefore]
    rfl

theorem advance_of_follows {c d : Couplet} (h : g.Follows rules record c d) :
    g.advance rules record c = .ok d := by
  obtain ⟨before, e, after, hsplit, he, hothers, rfl⟩ := h.sole
  have hfalse : ∀ f ∈ before ++ after, f.isTrue rules record = false :=
    fun f hf => Edge.isTrue_of_truth (hothers f hf)
  have hmatching : matching rules record (g.children c.id) = .ok [e] := by
    refine matching_eq_ok_iff.mpr ⟨fun f hf => ?_, ?_⟩
    · rw [hsplit] at hf
      rcases List.mem_append.mp hf with hf | hf
      · exact ⟨_, hothers f (List.mem_append_left _ hf)⟩
      · rcases List.mem_cons.mp hf with rfl | hf
        · exact ⟨_, he⟩
        · exact ⟨_, hothers f (List.mem_append_right _ hf)⟩
    · rw [hsplit, List.filter_append, List.filter_cons_of_pos (Edge.isTrue_iff.mpr he),
        List.filter_eq_nil_iff.mpr, List.filter_eq_nil_iff.mpr, List.nil_append]
      · intro f hf
        simp [hfalse f (List.mem_append_right _ hf)]
      · intro f hf
        simp [hfalse f (List.mem_append_left _ hf)]
  rw [advance, hmatching]

theorem advance_of_stops {c : Couplet} {failure : ClassifyFailure}
    (h : g.Stops rules record c failure) : g.advance rules record c = .error failure := by
  cases h with
  | eval hsplit hearlier hfails =>
    rw [advance, hsplit, matching_of_first_error hearlier hfails]
  | noMatch hnone =>
    have hfilter : (g.children c.id).filter (Edge.isTrue rules record) = [] :=
      List.filter_eq_nil_iff.mpr fun e he => by simp [Edge.isTrue_of_truth (hnone e he)]
    rw [advance, matching_eq_ok_iff.mpr ⟨fun e he => ⟨_, hnone e he⟩, hfilter.symm⟩]
  | ambiguous hevaluated hseveral =>
    rw [advance, matching_eq_ok_iff.mpr ⟨hevaluated, rfl⟩]
    -- with two true edges at least, only the last case of `advance` is left
    unfold trueEdges at hseveral ⊢
    generalize (g.children c.id).filter (Edge.isTrue rules record) = es at hseveral
    match es, hseveral with
    | _ :: _ :: _, _ => rfl

/-- From a couplet that is no class the walk either goes on or stops. -/
theorem follows_or_stops {c : Couplet} (hc : c.isTerminal = false) :
    (∃ d, g.Follows rules record c d) ∨ ∃ failure, g.Stops rules record c failure := by
  cases hm : matching rules record (g.children c.id) with
  | error err =>
    obtain ⟨before, e, after, hsplit, hearlier, hfails⟩ := matching_eq_error hm
    exact .inr ⟨_, .eval hsplit hearlier hfails⟩
  | ok es =>
    obtain ⟨hevaluated, hes⟩ := matching_eq_ok_iff.mp hm
    -- a guard that is evaluated and not true is false
    have hfalse : ∀ e ∈ g.children c.id, ¬ e.isTrue rules record = true →
        e.truth rules record = .ok false := by
      intro e he hnot
      obtain ⟨b, hb⟩ := hevaluated e he
      rw [Edge.isTrue_of_truth hb, Bool.not_eq_true] at hnot
      rw [hb, hnot]
    match es, hes with
    | [], hes =>
      exact .inr ⟨_, .noMatch fun e he => hfalse e he (List.filter_eq_nil_iff.mp hes.symm e he)⟩
    | [e], hes =>
      obtain ⟨before, after, hsplit, hbefore, he, hafter⟩ := List.filter_eq_cons_iff.mp hes.symm
      refine .inl ⟨e.target, hc, before, e, after, hsplit, Edge.isTrue_iff.mp he, ?_, rfl⟩
      intro f hf
      rcases List.mem_append.mp hf with hf | hf
      · exact hfalse f (by simp [hsplit, hf]) (hbefore f hf)
      · exact hfalse f (by simp [hsplit, hf]) (List.filter_eq_nil_iff.mp hafter f hf)
    | e :: e' :: es, hes =>
      refine .inr ⟨_, .ambiguous hevaluated ?_⟩
      rw [trueEdges, ← hes]
      simp

/-! ## Whole walks -/

variable (limit : Nat)

theorem walkFrom_of_terminal {c : Couplet} (hc : c.isTerminal = true) (n : Nat) :
    g.walkFrom rules record limit n c = (.ok c, []) := by
  unfold walkFrom
  exact if_pos hc

theorem walkFrom_zero {c : Couplet} (hc : c.isTerminal = false) :
    g.walkFrom rules record limit 0 c = (.error (.limit limit), []) := by
  unfold walkFrom
  exact if_neg (by simp [hc])

theorem walkFrom_succ {c : Couplet} (hc : c.isTerminal = false) (n : Nat) :
    g.walkFrom rules record limit (n + 1) c =
      match g.advance rules record c with
      | .error failure => (.error failure, [])
      | .ok next =>
        ((g.walkFrom rules record limit n next).1,
          next :: (g.walkFrom rules record limit n next).2) := by
  rw [walkFrom]
  exact if_neg (by simp [hc])

theorem walkFrom_of_stops {c : Couplet} {failure : ClassifyFailure} (hc : c.isTerminal = false)
    (h : g.Stops rules record c failure) (n : Nat) :
    g.walkFrom rules record limit (n + 1) c = (.error failure, []) := by
  rw [walkFrom_succ limit hc, advance_of_stops h]

/-- A walk within the bound is followed to its end. -/
theorem walkFrom_of_isChain {path : List Couplet} {c d : Couplet} {n : Nat}
    (hchain : (c :: path).IsChain (g.Follows rules record)) (hlast : (c :: path).getLast? = some d)
    (hn : path.length ≤ n) :
    g.walkFrom rules record limit n c =
      ((g.walkFrom rules record limit (n - path.length) d).1,
        path ++ (g.walkFrom rules record limit (n - path.length) d).2) := by
  induction path generalizing c n with
  | nil =>
    cases hlast
    rfl
  | cons b path ih =>
    obtain ⟨n, rfl⟩ := Nat.exists_eq_succ_of_ne_zero (Nat.ne_of_gt (Nat.lt_of_lt_of_le (by simp) hn))
    obtain ⟨hcb, hchain⟩ := List.isChain_cons_cons.mp hchain
    have hrest := ih hchain (by rwa [List.getLast?_cons_cons] at hlast) (by simpa using hn)
    rw [walkFrom_succ limit hcb.not_terminal, advance_of_follows hcb, List.length_cons,
      Nat.succ_sub_succ, List.cons_append]
    dsimp only
    rw [hrest]

/-- Within any number of steps the walk comes to a couplet where it ends, or where the steps do. -/
theorem exists_walk (g : DecisionGraph) (rules : RuleSet) (record : Record) (c : Couplet) (n : Nat) :
    ∃ path d, (c :: path).IsChain (g.Follows rules record) ∧ (c :: path).getLast? = some d ∧
      path.length ≤ n ∧
      (d.isTerminal = true ∨ d.isTerminal = false ∧
        (path.length = n ∨ ∃ failure, path.length < n ∧ g.Stops rules record d failure)) := by
  induction n generalizing c with
  | zero =>
    refine ⟨[], c, .singleton c, rfl, Nat.le_refl 0, ?_⟩
    cases hc : c.isTerminal with
    | true => exact .inl rfl
    | false => exact .inr ⟨rfl, .inl rfl⟩
  | succ n ih =>
    cases hc : c.isTerminal with
    | true => exact ⟨[], c, .singleton c, rfl, by simp, .inl hc⟩
    | false =>
      rcases follows_or_stops hc with ⟨b, hb⟩ | ⟨failure, hstops⟩
      · obtain ⟨path, d, hchain, hlast, hn, hend⟩ := ih b
        refine ⟨b :: path, d, List.isChain_cons_cons.mpr ⟨hb, hchain⟩, ?_, ?_, ?_⟩
        · rwa [List.getLast?_cons_cons]
        · simpa using hn
        · simpa using hend
      · exact ⟨[], c, .singleton c, rfl, by simp, .inr ⟨hc, .inr ⟨failure, by simp, hstops⟩⟩⟩

/-! ## Classification -/

theorem classify_of_walkFrom {settings : Settings} {failure : ClassifyFailure}
    {path : List Couplet}
    (hwalk : g.walkFrom rules record (g.stepLimit settings) (g.stepLimit settings) g.root =
      (.error failure, path)) :
    g.classify rules record settings =
      .error ⟨record, recordId settings record, g.root :: path, failure⟩ := by
  rw [classify, hwalk]

theorem exists_walkFrom_of_classify {settings : Settings} {c : Classification}
    (h : g.classify rules record settings = .ok c) :
    ∃ r path, g.walkFrom rules record (g.stepLimit settings) (g.stepLimit settings) g.root =
        (.ok r, path) ∧ c = .ofPath r (g.root :: path) (recordId settings record) := by
  rw [classify] at h
  generalize g.walkFrom rules record (g.stepLimit settings) (g.stepLimit settings) g.root = w at h
  obtain ⟨outcome, path⟩ := w
  cases outcome with
  | ok r => exact ⟨r, path, rfl, (Except.ok.inj h).symm⟩
  | error failure => cases h

theorem IsWalk.eq_cons {path : List Couplet} (h : g.IsWalk rules record path) :
    ∃ rest, path = g.root :: rest :=
  ⟨path.tail, List.eq_cons_of_mem_head? h.head⟩

theorem classify_eq_of_outcome {settings : Settings} {r : Except ClassifyError Classification}
    (h : g.Outcome rules record settings r) : g.classify rules record settings = r := by
  cases h with
  | @reached path c steps walk last terminal within indexed =>
    obtain ⟨rest, rfl⟩ := walk.eq_cons
    have hwalk := walkFrom_of_isChain (g.stepLimit settings) walk.chain last
      (Nat.le_of_succ_le_succ within)
    rw [walkFrom_of_terminal _ terminal, List.append_nil] at hwalk
    have hsteps :
        (Classification.ofPath c (g.root :: rest) (recordId settings record)).steps = steps :=
      List.ext_getElem? fun i => (Classification.getElem?_steps_ofPath c _ _ i).trans (indexed i).symm
    rw [classify, hwalk, ← hsteps]
    rfl
  | stopped walk last not_terminal within stops =>
    obtain ⟨rest, rfl⟩ := walk.eq_cons
    have hwalk := walkFrom_of_isChain (g.stepLimit settings) walk.chain last
      (Nat.le_of_succ_le within)
    rw [← Nat.succ_pred_eq_of_pos (Nat.sub_pos_of_lt within), walkFrom_of_stops _ not_terminal stops,
      List.append_nil] at hwalk
    rw [classify, hwalk]
  | exhausted walk last not_terminal full =>
    obtain ⟨rest, rfl⟩ := walk.eq_cons
    have hlength : rest.length = g.stepLimit settings := Nat.succ.inj full
    have hwalk := walkFrom_of_isChain (g.stepLimit settings) walk.chain last (Nat.le_of_eq hlength)
    rw [hlength, Nat.sub_self, walkFrom_zero _ not_terminal, List.append_nil] at hwalk
    rw [classify, hwalk]

/-- Some outcome is that of the walk: it ends within the bound, or the bound ends it. -/
theorem exists_outcome (g : DecisionGraph) (rules : RuleSet) (record : Record)
    (settings : Settings) : ∃ r, g.Outcome rules record settings r := by
  obtain ⟨path, d, hchain, hlast, hn, hend⟩ :=
    exists_walk g rules record g.root (g.stepLimit settings)
  have hwalk : g.IsWalk rules record (g.root :: path) := ⟨rfl, hchain⟩
  rcases hend with hterminal | ⟨hopen, hfull | ⟨failure, hlt, hstops⟩⟩
  · exact ⟨_, .reached hwalk hlast hterminal (Nat.succ_le_succ hn)
      (Classification.getElem?_steps_ofPath d _ _)⟩
  · exact ⟨_, .exhausted hwalk hlast hopen (congrArg (· + 1) hfull)⟩
  · exact ⟨_, .stopped hwalk hlast hopen hlt hstops⟩

theorem outcome_classify (g : DecisionGraph) (rules : RuleSet) (record : Record)
    (settings : Settings) :
    g.Outcome rules record settings (g.classify rules record settings) := by
  obtain ⟨r, hr⟩ := exists_outcome g rules record settings
  rwa [classify_eq_of_outcome hr]

/-- A classification returns what the walk comes to under its bound, and nothing else. -/
theorem classify_eq_iff_outcome (g : DecisionGraph) (rules : RuleSet) (record : Record)
    (settings : Settings) (r : Except ClassifyError Classification) :
    g.classify rules record settings = r ↔ g.Outcome rules record settings r := by
  constructor
  · rintro rfl
    exact outcome_classify g rules record settings
  · exact classify_eq_of_outcome

end DecisionGraph

end ClassificationKey
