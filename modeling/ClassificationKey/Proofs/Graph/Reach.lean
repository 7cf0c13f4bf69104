import ClassificationKey.Graph.Search
import ClassificationKey.Proofs.Distinct
import ClassificationKey.Proofs.Graph.Search
import Mathlib.Data.List.Perm.Subperm

/-!
# The nodes that are reached

`Round` is what holds of every round of the computation of `reachable`: what is seen is led to by
the root, and closed under successors but for the latest round. A round either is the last or sees a
new node, so there are no more rounds than nodes, and in the end exactly what the root leads to has
been seen (`mem_reachable_iff`).
-/

namespace ClassificationKey.Graph

open Relation

variable {α : Type} {next : α → List α} {root : α}

/-- What holds after every round. -/
structure Round (next : α → List α) (root : α) (seen latest : List α) : Prop where
  nodup : seen.Nodup
  root_mem : root ∈ seen
  led_to : ∀ v ∈ seen, ReflTransGen (Leads next) root v
  latest_subset : latest ⊆ seen
  closed : ∀ v ∈ seen, v ∉ latest → next v ⊆ seen

theorem Round.start : Round next root [root] [root] where
  nodup := List.nodup_singleton root
  root_mem := List.mem_singleton_self root
  led_to := fun v hv => by rw [List.mem_singleton.mp hv]
  latest_subset := List.Subset.refl _
  closed := fun v hv hnot => absurd hv hnot

/-- Where all successors have been seen, so has everything that is led to. -/
theorem mem_of_reflTransGen {seen : List α} (hroot : root ∈ seen)
    (hclosed : ∀ v ∈ seen, next v ⊆ seen) {v : α} (h : ReflTransGen (Leads next) root v) :
    v ∈ seen := by
  induction h with
  | refl => exact hroot
  | tail _ hlast ih => exact hclosed _ ih hlast

variable [DecidableEq α]

/-- The successors of the latest round that have not been seen. -/
def fresh (next : α → List α) (seen latest : List α) : List α :=
  ((latest.flatMap next).filter (· ∉ seen)).eraseDups

theorem mem_fresh {seen latest : List α} {v : α} :
    v ∈ fresh next seen latest ↔ (∃ u ∈ latest, v ∈ next u) ∧ v ∉ seen := by
  simp [fresh, List.mem_eraseDups, List.mem_filter, List.mem_flatMap]

theorem reachable_succ (rounds : Nat) (seen latest : List α) :
    reachable next (rounds + 1) seen latest =
      if fresh next seen latest = [] then seen
      else reachable next rounds (seen ++ fresh next seen latest) (fresh next seen latest) :=
  rfl

namespace Round

variable {seen latest : List α}

theorem advance (h : Round next root seen latest) :
    Round next root (seen ++ fresh next seen latest) (fresh next seen latest) where
  nodup := by
    refine List.nodup_append.mpr ⟨h.nodup, nodup_eraseDups _, fun v hv w hw => ?_⟩
    rintro rfl
    exact (mem_fresh.mp hw).2 hv
  root_mem := List.mem_append_left _ h.root_mem
  led_to := by
    intro v hv
    rcases List.mem_append.mp hv with hv | hv
    · exact h.led_to v hv
    · obtain ⟨⟨u, hu, huv⟩, -⟩ := mem_fresh.mp hv
      exact (h.led_to u (h.latest_subset hu)).tail huv
  latest_subset := List.subset_append_right _ _
  closed := by
    intro v hv hnot w hw
    have hseen : v ∈ seen := (List.mem_append.mp hv).resolve_right hnot
    by_cases hw' : w ∈ seen
    · exact List.mem_append_left _ hw'
    · -- a successor that has not been seen is one of the latest round, and so is new
      have hlatest : v ∈ latest := by
        by_contra hv'
        exact hw' (h.closed v hseen hv' hw)
      exact List.mem_append_right _ (mem_fresh.mpr ⟨⟨v, hlatest, hw⟩, hw'⟩)

theorem closed_of_fresh_eq_nil (h : Round next root seen latest)
    (hfresh : fresh next seen latest = []) : ∀ v ∈ seen, next v ⊆ seen := by
  have hadvance := h.advance
  rw [hfresh, List.append_nil] at hadvance
  exact fun v hv => hadvance.closed v hv List.not_mem_nil

end Round

variable {nodes : List α}

/-- Through with its rounds, the computation has seen exactly what the root leads to. -/
theorem mem_reachable_iff_of_round (hnodes : ∀ v ∈ nodes, next v ⊆ nodes) {rounds : Nat}
    {seen latest : List α} (h : Round next root seen latest) (hsub : seen ⊆ nodes)
    (hrounds : nodes.length ≤ rounds + seen.length) {v : α} :
    v ∈ reachable next rounds seen latest ↔ ReflTransGen (Leads next) root v := by
  induction rounds generalizing seen latest with
  | zero =>
    rw [reachable]
    -- all nodes have been seen
    have hperm : seen.Perm nodes :=
      (h.nodup.subperm hsub).perm_of_length_le (by omega)
    refine ⟨h.led_to v, mem_of_reflTransGen h.root_mem fun w hw x hx => ?_⟩
    exact hperm.mem_iff.mpr (hnodes w (hsub hw) hx)
  | succ rounds ih =>
    rw [reachable_succ]
    by_cases hfresh : fresh next seen latest = []
    · rw [if_pos hfresh]
      exact ⟨h.led_to v, mem_of_reflTransGen h.root_mem (h.closed_of_fresh_eq_nil hfresh)⟩
    · rw [if_neg hfresh]
      refine ih h.advance (List.append_subset.mpr ⟨hsub, fun w hw => ?_⟩) ?_
      · obtain ⟨⟨u, hu, huw⟩, -⟩ := mem_fresh.mp hw
        exact hnodes u (hsub (h.latest_subset hu)) huw
      · have hpos : 0 < (fresh next seen latest).length := List.length_pos_of_ne_nil hfresh
        have hlength : (seen ++ fresh next seen latest).length =
            seen.length + (fresh next seen latest).length := List.length_append
        omega

theorem mem_reachable_iff (hnodes : ∀ v ∈ nodes, next v ⊆ nodes) (hroot : root ∈ nodes) {v : α} :
    v ∈ reachable next nodes.length [root] [root] ↔ ReflTransGen (Leads next) root v :=
  mem_reachable_iff_of_round hnodes .start (by simpa using hroot) (Nat.le_add_right _ _)

/-! ## The first node that is not reached -/

open Classical in
theorem firstUnreached_eq_find? (hnodes : ∀ v ∈ nodes, next v ⊆ nodes) (hroot : root ∈ nodes) :
    firstUnreached next root nodes = nodes.find? fun v => ¬ ReflTransGen (Leads next) root v := by
  have hpred (v : α) : decide (v ∉ reachable next nodes.length [root] [root]) =
      decide (¬ ReflTransGen (Leads next) root v) :=
    decide_eq_decide.mpr (not_congr (mem_reachable_iff hnodes hroot))
  exact congrArg nodes.find? (funext hpred)

end ClassificationKey.Graph
