import Mathlib.Data.List.Induction
import Mathlib.Data.List.Nodup

/-!
# First occurrences

Of elements that are alike `List.eraseDupsBy` keeps the first, in the order of the list. Its result
may be built from the front (`eraseDupsBy_concat`), what it keeps is pairwise unlike
(`pairwise_eraseDupsBy`), and a search that does not tell alike elements apart finds in it what it
finds in the list (`find?_eraseDupsBy`).
-/

namespace ClassificationKey

variable {α : Type} (r : α → α → Bool)

theorem eraseDupsBy_loop_concat (as bs : List α) (a : α) :
    List.eraseDupsBy.loop r (as ++ [a]) bs =
      if (List.eraseDupsBy.loop r as bs).any (r a) then List.eraseDupsBy.loop r as bs
      else List.eraseDupsBy.loop r as bs ++ [a] := by
  induction as generalizing bs with
  | nil =>
    simp only [List.nil_append, List.eraseDupsBy.loop, List.any_reverse]
    cases bs.any (r a) <;> simp
  | cons b as ih =>
    have hcons (xs : List α) : List.eraseDupsBy.loop r (b :: xs) bs =
        List.eraseDupsBy.loop r xs (if bs.any (r b) then bs else b :: bs) := by
      rw [List.eraseDupsBy.loop]
      cases bs.any (r b) <;> rfl
    rw [List.cons_append, hcons, hcons]
    exact ih _

theorem eraseDupsBy_concat (as : List α) (a : α) :
    (as ++ [a]).eraseDupsBy r =
      if (as.eraseDupsBy r).any (r a) then as.eraseDupsBy r else as.eraseDupsBy r ++ [a] :=
  eraseDupsBy_loop_concat r as [] a

theorem eraseDupsBy_sublist (as : List α) : (as.eraseDupsBy r).Sublist as := by
  induction as using List.reverseRecOn with
  | nil => exact List.Sublist.refl _
  | append_singleton as a ih =>
    rw [eraseDupsBy_concat]
    split
    · exact ih.trans (List.sublist_append_left as [a])
    · exact ih.append (List.Sublist.refl [a])

/-- An element is unlike every one that is kept before it. -/
theorem pairwise_eraseDupsBy (as : List α) :
    (as.eraseDupsBy r).Pairwise fun a b => r b a = false := by
  induction as using List.reverseRecOn with
  | nil => exact .nil
  | append_singleton as a ih =>
    rw [eraseDupsBy_concat]
    split
    · exact ih
    · next hnone =>
      refine List.pairwise_append.mpr ⟨ih, List.pairwise_singleton _ _, fun b hb c hc => ?_⟩
      rw [List.mem_singleton.mp hc]
      simpa using fun h => hnone (List.any_eq_true.mpr ⟨b, hb, h⟩)

variable {r}

theorem find?_eraseDupsBy {p : α → Bool} (hp : ∀ a b, r a b = true → p a = p b) (as : List α) :
    (as.eraseDupsBy r).find? p = as.find? p := by
  induction as using List.reverseRecOn with
  | nil => rfl
  | append_singleton as a ih =>
    rw [eraseDupsBy_concat, List.find?_append, ← ih]
    split
    · next hany =>
      -- if `a` is what is searched for, the element like it is found before it
      obtain ⟨b, hb, hab⟩ := List.any_eq_true.mp hany
      cases hfind : (as.eraseDupsBy r).find? p with
      | some c => rfl
      | none =>
        have hpb := List.find?_eq_none.mp hfind b hb
        rw [← hp a b hab] at hpb
        simp [hpb]
    · rw [List.find?_append]

theorem nodup_eraseDups [DecidableEq α] (as : List α) : as.eraseDups.Nodup := by
  refine (pairwise_eraseDupsBy (· == ·) as).imp fun {a b} h => ?_
  exact (beq_eq_false_iff_ne.mp h).symm

end ClassificationKey
