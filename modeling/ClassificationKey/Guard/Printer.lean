import ClassificationKey.Guard.Basic
import ClassificationKey.Text.Blank

/-!
# Writing a guard

Every conjunction and disjunction is parenthesised, and the operand of `not` only where it is itself
negated, so that the text reads back as the same tree. The text neither starts nor ends with a blank.
-/

namespace ClassificationKey.Guard

open Text

/-- The text of a guard. -/
def render : Guard → String
  | .rule id => toString id.toNat
  | .not (.not g) => "not (" ++ render (.not g) ++ ")"
  | .not g => "not " ++ render g
  | .and a b => "(" ++ render a ++ " and " ++ render b ++ ")"
  | .or a b => "(" ++ render a ++ " or " ++ render b ++ ")"

example : render (.not (.not (.and (.rule 1) (.rule 2)))) = "not (not (1 and 2))" := by
  decide +kernel

/-! ### The ends of the text -/

theorem toList_toString (n : Nat) : (toString n).toList = Nat.toDigits 10 n := by
  rw [Nat.toString_eq_ofList_toDigits, String.toList_ofList]

/-- The digits of a number are no blanks. -/
theorem isBlank_of_mem_toDigits {n : Nat} {c : Char} (h : c ∈ Nat.toDigits 10 n) :
    isBlank c = false :=
  isBlank_of_isDigit (Nat.isDigit_of_mem_toDigits (by decide) (by decide) h)

theorem exists_head?_render (g : Guard) :
    ∃ c, (render g).toList.head? = some c ∧ isBlank c = false := by
  fun_cases render g with
  | case1 id =>
    obtain ⟨c, cs, hcons⟩ :=
      List.exists_cons_of_ne_nil (Nat.toDigits_ne_nil (n := id.toNat) (b := 10))
    have hmem : c ∈ Nat.toDigits 10 id.toNat := hcons ▸ List.mem_cons_self
    exact ⟨c, by rw [toList_toString, hcons]; rfl, isBlank_of_mem_toDigits hmem⟩
  | case2 g => exact ⟨'n', by simp, by decide⟩
  | case3 g _ => exact ⟨'n', by simp, by decide⟩
  | case4 a b => exact ⟨'(', by simp, by decide⟩
  | case5 a b => exact ⟨'(', by simp, by decide⟩

theorem getLast?_append_closing (s : String) : (s ++ ")").toList.getLast? = some ')' := by
  rw [String.toList_append, List.getLast?_append]
  rfl

theorem exists_getLast?_render (g : Guard) :
    ∃ c, (render g).toList.getLast? = some c ∧ isBlank c = false := by
  fun_induction render g with
  | case1 id =>
    have hne : Nat.toDigits 10 id.toNat ≠ [] := Nat.toDigits_ne_nil
    exact ⟨_, by rw [toList_toString, List.getLast?_eq_some_getLast hne],
      isBlank_of_mem_toDigits (List.getLast_mem hne)⟩
  | case2 g _ => exact ⟨')', getLast?_append_closing _, by decide⟩
  | case3 g _ ih =>
    obtain ⟨c, hlast, hc⟩ := ih
    exact ⟨c, by rw [String.toList_append, List.getLast?_append, hlast]; rfl, hc⟩
  | case4 a b _ _ => exact ⟨')', getLast?_append_closing _, by decide⟩
  | case5 a b _ _ => exact ⟨')', getLast?_append_closing _, by decide⟩

end ClassificationKey.Guard
