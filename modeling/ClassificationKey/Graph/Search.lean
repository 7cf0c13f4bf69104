/-!
# Searches of a graph

Two searches along a successor function. The one for a cycle goes in depth, trying successors in
order. A node is unvisited at first, then on the stack until all its successors are done, and then
done itself. The stack holds the nodes from the start to the present one; a successor that is marked
as being on it closes a cycle. The search for the nodes that a node leads to goes in rounds: each
round adds the successors of the round before that are new, and a round that adds none is the last.
-/

namespace ClassificationKey.Graph

/-! ### Cycles -/

/-- Where a search stands with a node. -/
inductive Mark where
  | unvisited
  | onStack
  | done
  deriving DecidableEq, Repr

/-- A search under way: the mark of each node, and the stack, its innermost node last. -/
structure Search (α : Type) where
  marks : List (α × Mark)
  stack : List α
  deriving Repr

/-- The end of a search that met `node` while it was marked as being on the stack. -/
structure Closure (α : Type) where
  stack : List α
  node : α
  deriving DecidableEq, Repr

variable {α : Type} [DecidableEq α]

namespace Closure

/-- Where the node stands on the stack. -/
def position? (c : Closure α) : Option Nat := c.stack.idxOf? c.node

/-- The cycle that is closed: the stack from the node on, and the node again. -/
def path (c : Closure α) : List α := c.stack.drop (c.position?.getD 0) ++ [c.node]

end Closure

namespace Search

/-- No node is visited yet. -/
def start (nodes : List α) : Search α := ⟨nodes.map fun v => (v, .unvisited), []⟩

/-- The mark of a node; what is no node at all counts as done. -/
def mark (s : Search α) (v : α) : Mark := (s.marks.lookup v).getD .done

/-- The marks with that of one node changed. -/
def remark (v : α) (m : Mark) (marks : List (α × Mark)) : List (α × Mark) :=
  marks.map fun entry => if entry.1 = v then (v, m) else entry

/-- Puts a node on the stack. -/
def enter (s : Search α) (v : α) : Search α := ⟨remark v .onStack s.marks, s.stack ++ [v]⟩

/-- Takes the innermost node off the stack. -/
def leave (s : Search α) (v : α) : Search α := ⟨remark v .done s.marks, s.stack.dropLast⟩

/-- The number of nodes still to be visited. -/
def unvisited (s : Search α) : Nat := s.marks.countP fun entry => entry.2 = .unvisited

theorem lookup_remark (v w : α) (m : Mark) (marks : List (α × Mark)) :
    (remark v m marks).lookup w =
      if w = v then (marks.lookup v).map fun _ => m else marks.lookup w := by
  induction marks with
  | nil => simp [remark]
  | cons entry marks ih =>
    obtain ⟨x, k⟩ := entry
    simp only [remark, List.map_cons] at ih ⊢
    by_cases hx : x = v
    · subst hx
      by_cases hw : w = x
      · simp [hw]
      · simp [hw, ih, List.lookup_cons, beq_eq_false_iff_ne.mpr hw]
    · by_cases hw : w = x
      · subst hw
        simp [hx]
      · rw [if_neg hx, List.lookup_cons, ih, List.lookup_cons, List.lookup_cons]
        simp [beq_eq_false_iff_ne.mpr hw, beq_eq_false_iff_ne.mpr (Ne.symm hx)]

theorem unvisited_remark_le {v : α} {m : Mark} (hm : m ≠ .unvisited) (marks : List (α × Mark)) :
    (remark v m marks).countP (fun entry => entry.2 = .unvisited) ≤
      marks.countP fun entry => entry.2 = .unvisited := by
  induction marks with
  | nil => exact Nat.le_refl _
  | cons entry marks ih =>
    simp only [remark, List.map_cons, List.countP_cons] at ih ⊢
    by_cases hv : entry.1 = v
    · simp only [if_pos hv, decide_eq_true_eq, if_neg hm]
      omega
    · simp only [if_neg hv]
      omega

/-- Entering an unvisited node leaves fewer of them. -/
theorem unvisited_enter {s : Search α} {v : α} (h : s.mark v = .unvisited) :
    (s.enter v).unvisited < s.unvisited := by
  obtain ⟨marks, stack⟩ := s
  simp only [mark, enter, unvisited] at h ⊢
  induction marks with
  | nil => simp at h
  | cons entry marks ih =>
    obtain ⟨x, k⟩ := entry
    by_cases hv : v = x
    · subst hv
      have hle := unvisited_remark_le (v := v) (m := .onStack) (by decide) marks
      simp only [List.lookup_cons_self, Option.getD_some] at h
      simp only [remark, List.map_cons, List.countP_cons] at hle ⊢
      simp [h] at hle ⊢
      omega
    · rw [List.lookup_cons, beq_eq_false_iff_ne.mpr hv] at h
      have hlt := ih h
      simp only [remark, List.map_cons, List.countP_cons, if_neg (Ne.symm hv)] at hlt ⊢
      omega

theorem unvisited_leave (s : Search α) (v : α) : (s.leave v).unvisited ≤ s.unvisited :=
  unvisited_remark_le (by decide) s.marks

end Search

variable (next : α → List α)

/-- Searches from the nodes `ws` in turn, successors of the innermost node on the stack; at the outset,
when the stack is empty, from all nodes. -/
def explore (s : Search α) (ws : List α) :
    Except (Closure α) { t : Search α // t.unvisited ≤ s.unvisited } :=
  match ws with
  | [] => .ok ⟨s, Nat.le_refl _⟩
  | w :: ws =>
    match h : s.mark w with
    | .onStack => .error ⟨s.stack, w⟩
    | .done => explore s ws
    | .unvisited =>
      have hw : (s.enter w).unvisited < s.unvisited := Search.unvisited_enter h
      match explore (s.enter w) (next w) with
      | .error c => .error c
      | .ok ⟨t, ht⟩ =>
        have hl : (t.leave w).unvisited < s.unvisited :=
          Nat.lt_of_le_of_lt (Nat.le_trans (t.unvisited_leave w) ht) hw
        match explore (t.leave w) ws with
        | .error c => .error c
        | .ok ⟨u, hu⟩ => .ok ⟨u, Nat.le_trans hu (Nat.le_of_lt hl)⟩
termination_by (s.unvisited, ws.length)

/-- Where the search of all nodes ends, if it ends before all of them are done. -/
def closure? (nodes : List α) : Option (Closure α) :=
  match explore next (.start nodes) nodes with
  | .ok _ => none
  | .error c => some c

/-- The first cycle that the search meets, starting from each node in turn. Its first node is repeated
at its end. -/
def findCycle (nodes : List α) : Option (List α) := (closure? next nodes).map Closure.path

/-! ### Reachability -/

/-- The nodes of `seen`, and those that at most `rounds` steps lead to from `latest`, the nodes of
`seen` whose successors are yet to be looked at. -/
def reachable : Nat → List α → List α → List α
  | 0, seen, _ => seen
  | rounds + 1, seen, latest =>
    let fresh := ((latest.flatMap next).filter (· ∉ seen)).eraseDups
    if fresh = [] then seen else reachable rounds (seen ++ fresh) fresh

/-- The first node of the list that the root does not lead to. -/
def firstUnreached (root : α) (nodes : List α) : Option α :=
  let reached := reachable next nodes.length [root] [root]
  nodes.find? (· ∉ reached)

end ClassificationKey.Graph
