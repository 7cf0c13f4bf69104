import ClassificationKey.Graph.Search
import Mathlib.Data.List.Chain
import Mathlib.Logic.Relation

/-!
# The search for a cycle

`Search.Inv` is what every state of the search in depth satisfies: the stack is a path without
repetition, the marks tell exactly which nodes are on it, and the nodes that are done are closed under
successors and lie on no cycle. `explore_spec` says that the search keeps it, and that a closure it
ends with is genuine. From this: a closure closes a cycle (`Closure.Genuine.isCycle`), and the search
of all nodes meets one exactly when there is a cycle (`isSome_closure?_iff`).
-/

namespace ClassificationKey.Graph

open Relation

/-! ## Cycles of a relation -/

section Cycles

variable {α : Type} (R : α → α → Prop)

/-- Some node leads back to itself. -/
def HasCycle : Prop := ∃ v, TransGen R v v

/-- A path that ends where it starts and meets no other node twice. -/
structure IsCycle (path : List α) : Prop where
  two_le_length : 2 ≤ path.length
  closed : path.head? = path.getLast?
  nodup : path.dropLast.Nodup
  chain : path.IsChain R

variable {R}

theorem transGen_of_isChain {a b : α} :
    ∀ {path : List α}, path.IsChain R → path.head? = some a → path.getLast? = some b →
      2 ≤ path.length → TransGen R a b
  | [], _, _, _, h => absurd h (by simp)
  | [_], _, _, _, h => absurd h (by simp)
  | [x, y], hc, ha, hb, _ => by
    simp only [List.head?_cons, List.getLast?_cons_cons, List.getLast?_singleton,
      Option.some.injEq] at ha hb
    subst ha hb
    exact .single hc.rel
  | x :: y :: z :: path, hc, ha, hb, _ => by
    simp only [List.head?_cons, Option.some.injEq] at ha
    subst ha
    exact .head hc.rel
      (transGen_of_isChain hc.tail rfl (by rwa [List.getLast?_cons_cons] at hb) (by simp))

theorem IsCycle.hasCycle {path : List α} (h : IsCycle R path) : HasCycle R := by
  obtain ⟨v, hv⟩ : ∃ v, path.head? = some v := by
    cases path with
    | nil => exact absurd h.two_le_length (by simp)
    | cons v _ => exact ⟨v, rfl⟩
  exact ⟨v, transGen_of_isChain h.chain hv (h.closed ▸ hv) h.two_le_length⟩

theorem not_hasCycle_of_rank (rank : α → Nat) (h : ∀ a b, R a b → rank a < rank b) :
    ¬ HasCycle R := by
  rintro ⟨v, hv⟩
  have hlt : TransGen (· < ·) (rank v) (rank v) := hv.lift rank h
  rw [transGen_eq_self] at hlt
  exact Nat.lt_irrefl _ hlt

/-- Where no node leads back to itself, no path meets a node twice. -/
theorem nodup_of_isChain {path : List α} (hR : ¬ HasCycle R) (h : path.IsChain R) : path.Nodup := by
  have hpairwise : path.Pairwise (TransGen R) :=
    List.isChain_iff_pairwise.mp (h.imp fun _ _ => .single)
  refine hpairwise.imp fun {a b} (hab : TransGen R a b) => ?_
  rintro rfl
  exact hR ⟨a, hab⟩

end Cycles

variable {α : Type} {next : α → List α}

/-- There is an edge from `a` to `b`. -/
def Leads (next : α → List α) (a b : α) : Prop := b ∈ next a

variable [DecidableEq α]

/-! ## Marks -/

namespace Search

theorem mark_enter {s : Search α} {v : α} (h : s.mark v = .unvisited) (w : α) :
    (s.enter v).mark w = if w = v then .onStack else s.mark w := by
  simp only [mark, enter, lookup_remark] at h ⊢
  by_cases hw : w = v
  · rw [if_pos hw, if_pos hw]
    cases hl : s.marks.lookup v with
    | none => rw [hl] at h; cases h
    | some m => rfl
  · rw [if_neg hw, if_neg hw]

theorem mark_leave (s : Search α) (v w : α) :
    (s.leave v).mark w = if w = v then .done else s.mark w := by
  simp only [mark, leave, lookup_remark]
  by_cases hw : w = v
  · rw [if_pos hw, if_pos hw]
    cases s.marks.lookup v <;> rfl
  · rw [if_neg hw, if_neg hw]

theorem mark_start (nodes : List α) (v : α) :
    (start nodes).mark v = if v ∈ nodes then .unvisited else .done := by
  simp only [mark, start]
  induction nodes with
  | nil => rfl
  | cons x nodes ih =>
    by_cases hv : v = x
    · simp [hv]
    · rw [List.map_cons, List.lookup_cons, beq_eq_false_iff_ne.mpr hv]
      simpa [hv] using ih

/-! ## The invariant -/

/-- What holds of every state of the search. -/
structure Inv (next : α → List α) (s : Search α) : Prop where
  chain : s.stack.IsChain (Leads next)
  nodup : s.stack.Nodup
  mark_iff : ∀ v, s.mark v = .onStack ↔ v ∈ s.stack
  done_next : ∀ v, s.mark v = .done → ∀ w ∈ next v, s.mark w = .done
  done_acyclic : ∀ v, s.mark v = .done → ¬ TransGen (Leads next) v v

theorem Inv.start {nodes : List α} (h : ∀ v, next v ≠ [] → v ∈ nodes) :
    (start nodes).Inv next := by
  have hnil : ∀ v, (Search.start nodes).mark v = .done → next v = [] := by
    intro v hv
    rw [mark_start] at hv
    by_contra hne
    rw [if_pos (h v hne)] at hv
    cases hv
  refine ⟨.nil, .nil, fun v => ?_, fun v hv w hw => ?_, fun v hv hc => ?_⟩
  · rw [mark_start]
    constructor
    · intro hv
      split at hv <;> cases hv
    · intro hv
      cases hv
  · rw [hnil v hv] at hw
    cases hw
  · obtain ⟨w, hw, -⟩ := TransGen.head'_iff.mp hc
    rw [Leads, hnil v hv] at hw
    cases hw

/-- What is done leads only to what is done. -/
theorem Inv.done_of_reflTransGen {s : Search α} (hs : s.Inv next) {v w : α}
    (h : ReflTransGen (Leads next) v w) (hv : s.mark v = .done) : s.mark w = .done := by
  induction h with
  | refl => exact hv
  | tail _ hw ih => exact hs.done_next _ ih _ hw

theorem Inv.enter {s : Search α} (hs : s.Inv next) {w : α} (hw : s.mark w = .unvisited)
    (hlast : ∀ v ∈ s.stack.getLast?, w ∈ next v) : (s.enter w).Inv next := by
  have hmem : w ∉ s.stack := by
    intro h
    rw [(hs.mark_iff w).mpr h] at hw
    cases hw
  have hdone : ∀ v, (s.enter w).mark v = .done → s.mark v = .done := by
    intro v hv
    rw [mark_enter hw] at hv
    split at hv
    · cases hv
    · exact hv
  refine ⟨?_, ?_, fun v => ?_, fun v hv x hx => ?_, fun v hv => hs.done_acyclic v (hdone v hv)⟩
  · refine List.isChain_append.mpr ⟨hs.chain, .singleton w, fun v hv x hx => ?_⟩
    cases hx
    exact hlast v hv
  · refine List.nodup_append.mpr ⟨hs.nodup, by simp, fun v hv x hx => ?_⟩
    rw [List.mem_singleton.mp hx]
    rintro rfl
    exact hmem hv
  · rw [mark_enter hw]
    show _ ↔ v ∈ s.stack ++ [w]
    by_cases hv : v = w
    · simp [hv]
    · simp [hv, hs.mark_iff v]
  · have hx := hs.done_next v (hdone v hv) x hx
    rw [mark_enter hw, if_neg, hx]
    rintro rfl
    rw [hw] at hx
    cases hx

/-- The innermost node can be left once its successors are done: none of them leads back to it. -/
theorem Inv.leave {s : Search α} (hs : s.Inv next) {stack : List α} {w : α}
    (hstack : s.stack = stack ++ [w]) (hnext : ∀ x ∈ next w, s.mark x = .done) :
    (s.leave w).Inv next := by
  have hw : s.mark w = .onStack := (hs.mark_iff w).mpr (by simp [hstack])
  have hleft : (s.leave w).stack = stack := by simp [Search.leave, hstack]
  have hchain := hs.chain
  have hnodup := hs.nodup
  rw [hstack] at hchain hnodup
  have hdone : ∀ v, s.mark v = .done → (s.leave w).mark v = .done := by
    intro v hv
    rw [mark_leave, hv]
    split <;> rfl
  refine ⟨?_, ?_, fun v => ?_, fun v hv x hx => ?_, fun v hv hc => ?_⟩
  · rw [hleft]
    exact (List.isChain_append.mp hchain).1
  · rw [hleft]
    exact (List.nodup_append.mp hnodup).1
  · rw [mark_leave, hleft]
    by_cases hv : v = w
    · have : w ∉ stack := fun h => (List.nodup_append.mp hnodup).2.2 w h w (by simp) rfl
      simp [hv, this]
    · rw [if_neg hv, hs.mark_iff, hstack]
      simp [hv]
  · rw [mark_leave] at hv
    by_cases hvw : v = w
    · subst hvw
      exact hdone x (hnext x hx)
    · rw [if_neg hvw] at hv
      exact hdone x (hs.done_next v hv x hx)
  · rw [mark_leave] at hv
    by_cases hvw : v = w
    · subst hvw
      obtain ⟨x, hx, hxv⟩ := TransGen.head'_iff.mp hc
      have := hs.done_of_reflTransGen hxv (hnext x hx)
      rw [hw] at this
      cases this
    · rw [if_neg hvw] at hv
      exact hs.done_acyclic v hv hc

end Search

/-! ## Runs -/

/-- What a search from `s` has achieved when it is through with `ws`. -/
structure Finishes (next : α → List α) (s : Search α) (ws : List α) (t : Search α) : Prop where
  inv : t.Inv next
  stack_eq : t.stack = s.stack
  done : ∀ w ∈ ws, t.mark w = .done
  mono : ∀ v, s.mark v = .done → t.mark v = .done

namespace Finishes

theorem trans {s t u : Search α} {ws xs : List α} (h : Finishes next s ws t)
    (h' : Finishes next t xs u) : Finishes next s (ws ++ xs) u where
  inv := h'.inv
  stack_eq := h'.stack_eq.trans h.stack_eq
  done := fun w hw => (List.mem_append.mp hw).elim (fun hw => h'.mono w (h.done w hw)) (h'.done w)
  mono := fun v hv => h'.mono v (h.mono v hv)

/-- To enter an unvisited node, be through with its successors and leave it is to be through with it. -/
theorem visit {s t : Search α} {w : α} (hw : s.mark w = .unvisited)
    (h : Finishes next (s.enter w) (next w) t) : Finishes next s [w] (t.leave w) where
  inv := h.inv.leave h.stack_eq h.done
  stack_eq := by
    show t.stack.dropLast = s.stack
    rw [h.stack_eq]
    exact List.dropLast_concat
  done := fun x hx => by
    rw [Search.mark_leave, if_pos (List.mem_singleton.mp hx)]
  mono := fun v hv => by
    have hvw : v ≠ w := by
      rintro rfl
      rw [hw] at hv
      cases hv
    rw [Search.mark_leave, if_neg hvw]
    exact h.mono v (by rw [Search.mark_enter hw, if_neg hvw, hv])

end Finishes

/-- The search may go on from `ws`: the innermost node on the stack, if there is one, leads to them. -/
structure Ready (next : α → List α) (s : Search α) (ws : List α) : Prop where
  inv : s.Inv next
  leads : ∀ v ∈ s.stack.getLast?, ∀ w ∈ ws, w ∈ next v

namespace Ready

variable {s : Search α} {w : α} {ws : List α}

theorem start {nodes : List α} (h : ∀ v, next v ≠ [] → v ∈ nodes) :
    Ready next (.start nodes) nodes :=
  ⟨Search.Inv.start h, fun v hv => absurd hv (by simp [Search.start])⟩

theorem tail (h : Ready next s (w :: ws)) : Ready next s ws :=
  ⟨h.inv, fun v hv x hx => h.leads v hv x (List.mem_cons_of_mem w hx)⟩

theorem enter (h : Ready next s (w :: ws)) (hw : s.mark w = .unvisited) :
    Ready next (s.enter w) (next w) := by
  refine ⟨h.inv.enter hw fun v hv => h.leads v hv w List.mem_cons_self, fun v hv x hx => ?_⟩
  -- the innermost node is now `w` itself
  rw [show (s.enter w).stack.getLast? = some w from List.getLast?_concat] at hv
  cases hv
  exact hx

theorem of_finishes (h : Ready next s (w :: ws)) {t : Search α} (ht : Finishes next s [w] t) :
    Ready next t ws :=
  ⟨ht.inv, fun v hv => h.tail.leads v (ht.stack_eq ▸ hv)⟩

end Ready

/-- The closure of a node that is on the stack, which is a path, by the innermost node. -/
structure Closure.Genuine (next : α → List α) (c : Closure α) : Prop where
  chain : c.stack.IsChain (Leads next)
  nodup : c.stack.Nodup
  mem : c.node ∈ c.stack
  last_leads : ∀ v ∈ c.stack.getLast?, c.node ∈ next v

/-- A search either is through with all nodes it starts from, or ends with a genuine closure. -/
theorem explore_spec (s : Search α) (ws : List α) (hs : Ready next s ws) :
    match explore next s ws with
    | .ok t => Finishes next s ws t.1
    | .error c => c.Genuine next := by
  fun_induction explore next s ws with
  | case1 s => exact ⟨hs.inv, rfl, by simp, fun _ h => h⟩
  | case2 s w ws hw =>
    exact ⟨hs.inv.chain, hs.inv.nodup, (hs.inv.mark_iff w).mp hw,
      fun v hv => hs.leads v hv w List.mem_cons_self⟩
  | case3 s w ws hw ih =>
    have h := ih hs.tail
    split at h
    · exact ⟨h.inv, h.stack_eq, List.forall_mem_cons.mpr ⟨h.mono w hw, h.done⟩, h.mono⟩
    · exact h
  | case4 s w ws hw hlt c hc ih =>
    have hinner := ih (hs.enter hw)
    rwa [hc] at hinner
  | case5 s w ws hw hlt t ht hin hl c hc ihin ih =>
    have hinner := ihin (hs.enter hw)
    rw [hin] at hinner
    have hrest := ih (hs.of_finishes (Finishes.visit hw hinner))
    rwa [hc] at hrest
  | case6 s w ws hw hlt t ht hin hl u hu hc ihin ih =>
    have hinner := ihin (hs.enter hw)
    rw [hin] at hinner
    have hvisit := Finishes.visit hw hinner
    have hrest := ih (hs.of_finishes hvisit)
    rw [hc] at hrest
    exact hvisit.trans hrest

/-! ## Closures -/

/-- The node that closes a cycle is found on the stack. -/
theorem Closure.Genuine.isSome_position? {c : Closure α} (h : c.Genuine next) :
    c.position?.isSome := by
  rw [position?, List.isSome_idxOf?]
  exact h.mem

theorem Closure.Genuine.isCycle {c : Closure α} (h : c.Genuine next) : IsCycle (Leads next) c.path := by
  obtain ⟨i, hi⟩ := Option.isSome_iff_exists.mp h.isSome_position?
  obtain ⟨hlt, hat, -⟩ := List.idxOf?_eq_some_iff.mp hi
  have hpath : c.path = c.stack.drop i ++ [c.node] := by simp [path, hi]
  have hdrop : c.stack.drop i = c.node :: c.stack.drop (i + 1) := by
    rw [List.drop_eq_getElem_cons hlt, hat]
  rw [hpath]
  refine ⟨?_, ?_, ?_, ?_⟩
  · simp [hdrop]
  · rw [hdrop, List.getLast?_concat]
    rfl
  · rw [List.dropLast_concat]
    exact h.nodup.sublist (List.drop_sublist _ _)
  · refine List.isChain_append.mpr ⟨h.chain.drop i, .singleton _, fun v hv x hx => ?_⟩
    cases hx
    refine h.last_leads v ?_
    rw [List.getLast?_drop] at hv
    split at hv
    · cases hv
    · exact hv

/-! ## The search of all nodes -/

theorem genuine_of_closure? {nodes : List α} (hnodes : ∀ v, next v ≠ [] → v ∈ nodes)
    {c : Closure α} (h : closure? next nodes = some c) : c.Genuine next := by
  have hspec := explore_spec (.start nodes) nodes (.start hnodes)
  unfold closure? at h
  split at h
  · cases h
  · next hc =>
    rw [hc] at hspec
    cases h
    exact hspec

theorem isSome_closure?_iff {nodes : List α} (hnodes : ∀ v, next v ≠ [] → v ∈ nodes) :
    (closure? next nodes).isSome ↔ HasCycle (Leads next) := by
  constructor
  · intro h
    obtain ⟨c, hc⟩ := Option.isSome_iff_exists.mp h
    exact (genuine_of_closure? hnodes hc).isCycle.hasCycle
  · rintro ⟨v, hv⟩
    have hspec := explore_spec (.start nodes) nodes (.start hnodes)
    unfold closure?
    split
    · next t ht =>
      rw [ht] at hspec
      -- a node on a cycle has a successor, so the search is through with it
      obtain ⟨w, hw, -⟩ := TransGen.head'_iff.mp hv
      have hdone := hspec.done v (hnodes v (List.ne_nil_of_mem hw))
      exact absurd hv (hspec.inv.done_acyclic v hdone)
    · rfl

end ClassificationKey.Graph
