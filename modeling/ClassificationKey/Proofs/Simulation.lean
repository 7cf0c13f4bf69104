import ClassificationKey.Proofs.Row

/-!
# Simulations

Two computations simulate each other when they end alike, with related results or with related
errors. Where each step of two traversals does so, the traversals do: two folds
(`simulates_foldNumbered`), whose relation may speak of the elements passed so far, and a map and a
fold, whose relation speaks of the results so far (`simulates_mapNumbered_foldNumbered`).
-/

namespace ClassificationKey

variable {α α' β γ δ ε ε' ζ ζ' : Type}

/-- Both computations return results that `R` relates, or both fail with errors that `E` relates. -/
inductive Simulates (E : ε → ε' → Prop) (R : α → β → Prop) : Except ε α → Except ε' β → Prop where
  | ok {a : α} {b : β} (h : R a b) : Simulates E R (.ok a) (.ok b)
  | error {e : ε} {e' : ε'} (h : E e e') : Simulates E R (.error e) (.error e')

variable {E : ε → ε' → Prop}

namespace Simulates

variable {R : α → β → Prop} {x : Except ε α} {y : Except ε' β}

theorem bind {S : γ → δ → Prop} {f : α → Except ε γ} {g : β → Except ε' δ}
    (h : Simulates E R x y) (hf : ∀ a b, R a b → Simulates E S (f a) (g b)) :
    Simulates E S (x >>= f) (y >>= g) := by
  cases h with
  | ok hab => exact hf _ _ hab
  | error he => exact .error he

theorem mapError {F : ζ → ζ' → Prop} {f : ε → ζ} {g : ε' → ζ'} (h : Simulates E R x y)
    (hF : ∀ e e', E e e' → F (f e) (g e')) : Simulates F R (x.mapError f) (y.mapError g) := by
  cases h with
  | ok hab => exact .ok hab
  | error he => exact .error (hF _ _ he)

theorem exists_of_eq_ok {a : α} (h : Simulates E R (.ok a) y) : ∃ b, y = .ok b ∧ R a b := by
  cases h with
  | ok hab => exact ⟨_, rfl, hab⟩

end Simulates

/-- Where it does not matter with which errors they fail, it is enough that each computation returns
when the other one does. -/
theorem simulates_of_ok {R : α → β → Prop} {x : Except ε α} {y : Except ε' β}
    (hforth : ∀ a, x = .ok a → ∃ b, y = .ok b ∧ R a b) (hback : ∀ b, y = .ok b → ∃ a, x = .ok a) :
    Simulates (fun _ _ => True) R x y := by
  cases x with
  | ok a =>
    obtain ⟨b, rfl, hab⟩ := hforth a rfl
    exact .ok hab
  | error e =>
    cases y with
    | ok b =>
      obtain ⟨a, ⟨⟩⟩ := hback b rfl
    | error e' => exact .error trivial

theorem simulates_foldNumbered {R : List α → β → γ → Prop} {f : Nat → β → α → Except ε β}
    {g : Nat → γ → α → Except ε' γ} {done as : List α} {b : β} {c : γ} {k : Nat}
    (hstep : ∀ done i a b c, R done b c → Simulates E (R (done ++ [a])) (f i b a) (g i c a))
    (h : R done b c) :
    Simulates E (R (done ++ as)) (foldNumbered f k b as) (foldNumbered g k c as) := by
  induction as generalizing done b c k with
  | nil =>
    rw [List.append_nil]
    exact .ok h
  | cons a as ih =>
    have ha := hstep done k a b c h
    rw [foldNumbered, foldNumbered]
    generalize f k b a = x at ha ⊢
    generalize g k c a = y at ha ⊢
    cases ha with
    | error he => exact .error he
    | ok hbc =>
      have hrest := ih (k := k + 1) hbc
      rwa [List.append_assoc, List.singleton_append] at hrest

theorem simulates_mapNumbered_foldNumbered {P : α → α' → Prop} {R : List β → γ → Prop}
    {f : Nat → α → Except ε β} {g : Nat → γ → α' → Except ε' γ} {as : List α} {as' : List α'}
    {bs : List β} {c : γ} {k : Nat}
    (hstep : ∀ i a a' bs c, P a a' → R bs c →
      Simulates E (fun b c' => R (bs ++ [b]) c') (f i a) (g i c a'))
    (has : List.Forall₂ P as as') (h : R bs c) :
    Simulates E (fun bs' c' => R (bs ++ bs') c') (mapNumbered f k as) (foldNumbered g k c as') := by
  induction has generalizing bs c k with
  | nil => exact .ok (by rwa [List.append_nil])
  | @cons a a' as as' haa' _ ih =>
    have ha := hstep k a a' bs c haa' h
    rw [mapNumbered, foldNumbered]
    generalize f k a = x at ha ⊢
    generalize g k c a' = y at ha ⊢
    cases ha with
    | error he => exact .error he
    | ok hbc =>
      have hrest := ih (k := k + 1) hbc
      dsimp only
      generalize mapNumbered f (k + 1) as = u at hrest ⊢
      generalize foldNumbered g (k + 1) _ as' = v at hrest ⊢
      cases hrest with
      | error he => exact .error he
      | ok hall =>
        rw [List.append_assoc, List.singleton_append] at hall
        exact .ok hall

end ClassificationKey
