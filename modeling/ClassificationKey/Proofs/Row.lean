import ClassificationKey.Row
import Mathlib.Data.List.Forall2

/-!
# Rows of tables

A cell that must be filled is read, or it is the error that its column is missing. A traversal that locates errors by number returns, when there is none, what the plain traversal
returns: the elements' results one by one for `mapNumbered`, the monadic fold for `foldNumbered`. If
there is one, it is that of the first element that has one, located by the number of elements
before.
-/

namespace ClassificationKey

variable {α β γ ε ε' : Type}

theorem ok_bind (a : α) (f : α → Except ε β) : (.ok a >>= f : Except ε β) = f a := rfl

theorem error_bind (e : ε) (f : α → Except ε β) : (.error e >>= f : Except ε β) = .error e := rfl

theorem bind_eq_ok_iff {x : Except ε α} {f : α → Except ε β} {b : β} :
    x >>= f = .ok b ↔ ∃ a, x = .ok a ∧ f a = .ok b := by
  cases x with
  | error e => exact ⟨nofun, fun ⟨_, h, _⟩ => nomatch h⟩
  | ok a =>
    constructor
    · intro h
      exact ⟨a, rfl, h⟩
    · rintro ⟨_, ⟨⟩, h⟩
      exact h

theorem bind_eq_error_iff {x : Except ε α} {f : α → Except ε β} {e : ε} :
    x >>= f = .error e ↔ x = .error e ∨ ∃ a, x = .ok a ∧ f a = .error e := by
  cases x with
  | error e' =>
    constructor
    · intro h
      cases h
      exact .inl rfl
    · rintro (h | ⟨_, ⟨⟩, _⟩)
      cases h
      rfl
  | ok a =>
    refine ⟨fun h => .inr ⟨a, rfl, h⟩, ?_⟩
    rintro (h | ⟨_, ⟨⟩, h⟩)
    · cases h
    · exact h

theorem mapError_eq_ok_iff {x : Except ε α} {f : ε → ε'} {a : α} :
    x.mapError f = .ok a ↔ x = .ok a := by
  cases x with
  | error e => exact ⟨nofun, nofun⟩
  | ok b => simp [Except.mapError]

theorem mapError_bind (x : Except ε α) (f : α → Except ε β) (q : ε → ε') :
    (x >>= f).mapError q = x.mapError q >>= fun a => (f a).mapError q := by
  cases x <;> rfl

/-- A decision is made on the value, so what follows each outcome may be changed apart. -/
theorem mapError_bind_ite (x : Except ε Bool) (y z : Except ε α) (q : ε → ε') :
    (x >>= fun v => if v then y else z).mapError q =
      x.mapError q >>= fun v => if v then y.mapError q else z.mapError q := by
  rw [mapError_bind]
  congr 1
  funext v
  cases v with
  | true => rw [if_pos rfl, if_pos rfl]
  | false => rw [if_neg Bool.false_ne_true, if_neg Bool.false_ne_true]

theorem exists_eq_ok_of_isOk {x : Except ε α} (h : x.isOk = true) : ∃ a, x = .ok a := by
  cases x with
  | error e => cases h
  | ok a => exact ⟨a, rfl⟩

theorem mapM_eq_ok_iff {f : α → Except ε β} {as : List α} {bs : List β} :
    as.mapM f = .ok bs ↔ List.Forall₂ (fun a b => f a = .ok b) as bs := by
  induction as generalizing bs with
  | nil => simp [pure, Except.pure, eq_comm]
  | cons a as ih =>
    simp only [List.mapM_cons, bind_eq_ok_iff, ih, pure, Except.pure, Except.ok.injEq,
      List.forall₂_cons_left_iff]
    constructor
    · rintro ⟨b, hb, bs, hbs, rfl⟩
      exact ⟨b, bs, hb, hbs, rfl⟩
    · rintro ⟨b, bs, hb, hbs, rfl⟩
      exact ⟨b, hb, bs, hbs, rfl⟩

theorem mapM_eq_some_iff {f : α → Option β} {as : List α} {bs : List β} :
    as.mapM f = some bs ↔ List.Forall₂ (fun a b => f a = some b) as bs := by
  induction as generalizing bs with
  | nil => simp [eq_comm]
  | cons a as ih =>
    simp only [List.mapM_cons, Option.bind_eq_bind, Option.bind_eq_some_iff, ih,
      List.forall₂_cons_left_iff]
    constructor
    · rintro ⟨b, hb, bs, hbs, h⟩
      exact ⟨b, bs, hb, hbs, (Option.some.inj h).symm⟩
    · rintro ⟨b, bs, hb, hbs, rfl⟩
      exact ⟨b, hb, bs, hbs, rfl⟩

theorem mapNumbered_eq_ok_iff {f : α → Except ε β} {locate : Nat → α → ε → ε'} {k : Nat}
    {as : List α} {bs : List β} :
    mapNumbered (fun i a => (f a).mapError (locate i a)) k as = .ok bs ↔
      List.Forall₂ (fun a b => f a = .ok b) as bs := by
  induction as generalizing k bs with
  | nil =>
    rw [mapNumbered, List.forall₂_nil_left_iff]
    exact ⟨fun h => (Except.ok.inj h).symm, fun h => congrArg Except.ok h.symm⟩
  | cons a as ih =>
    rw [mapNumbered, List.forall₂_cons_left_iff]
    cases ha : (f a).mapError (locate k a) with
    | error e =>
      refine ⟨nofun, ?_⟩
      rintro ⟨b, _, hb, -⟩
      rw [mapError_eq_ok_iff.mpr hb] at ha
      cases ha
    | ok b =>
      have hb := mapError_eq_ok_iff.mp ha
      cases has : mapNumbered (fun i a => (f a).mapError (locate i a)) (k + 1) as with
      | error e =>
        refine ⟨nofun, ?_⟩
        rintro ⟨_, bs', -, hbs, -⟩
        rw [ih.mpr hbs] at has
        cases has
      | ok bs' =>
        constructor
        · intro h
          cases h
          exact ⟨b, bs', hb, ih.mp has, rfl⟩
        · rintro ⟨_, _, hb', hbs, rfl⟩
          rw [hb] at hb'
          rw [ih.mpr hbs] at has
          cases hb'
          cases has
          rfl

theorem mapNumbered_eq_error {f : α → Except ε β} {locate : Nat → α → ε → ε'} {k : Nat}
    {as : List α} {e : ε'}
    (h : mapNumbered (fun i a => (f a).mapError (locate i a)) k as = .error e) :
    ∃ before a after e', as = before ++ a :: after ∧ (∀ b ∈ before, ∃ c, f b = .ok c) ∧
      f a = .error e' ∧ e = locate (k + before.length) a e' := by
  induction as generalizing k with
  | nil => cases h
  | cons a as ih =>
    rw [mapNumbered] at h
    cases ha : f a with
    | error e' =>
      rw [ha] at h
      cases h
      exact ⟨[], a, as, e', rfl, List.forall_mem_nil _, ha, rfl⟩
    | ok c =>
      rw [ha] at h
      cases has : mapNumbered (fun i a => (f a).mapError (locate i a)) (k + 1) as with
      | ok bs =>
        rw [has] at h
        cases h
      | error e'' =>
        rw [has] at h
        cases h
        obtain ⟨before, b, after, e', rfl, hbefore, hb, rfl⟩ := ih has
        refine ⟨a :: before, b, after, e', rfl, List.forall_mem_cons.mpr ⟨⟨c, ha⟩, hbefore⟩, hb, ?_⟩
        rw [List.length_cons, Nat.add_right_comm, Nat.add_assoc]

theorem foldNumbered_eq_ok_iff {f : β → α → Except ε β} {locate : Nat → α → ε → ε'} {k : Nat}
    {as : List α} {b r : β} :
    foldNumbered (fun i b a => (f b a).mapError (locate i a)) k b as = .ok r ↔
      as.foldlM f b = .ok r := by
  induction as generalizing k b with
  | nil =>
    simp only [foldNumbered, List.foldlM_nil, pure, Except.pure, Except.ok.injEq]
  | cons a as ih =>
    rw [foldNumbered, List.foldlM_cons, bind_eq_ok_iff]
    cases ha : (f b a).mapError (locate k a) with
    | error e =>
      refine ⟨nofun, ?_⟩
      rintro ⟨_, hb, -⟩
      rw [mapError_eq_ok_iff.mpr hb] at ha
      cases ha
    | ok b' =>
      have hb := mapError_eq_ok_iff.mp ha
      constructor
      · intro h
        exact ⟨b', hb, ih.mp h⟩
      · rintro ⟨_, hb', h⟩
        rw [hb] at hb'
        cases hb'
        exact ih.mpr h

theorem foldNumbered_eq_error {f : β → α → Except ε β} {locate : Nat → α → ε → ε'} {k : Nat}
    {as : List α} {b : β} {e : ε'}
    (h : foldNumbered (fun i b a => (f b a).mapError (locate i a)) k b as = .error e) :
    ∃ before a after c e', as = before ++ a :: after ∧ before.foldlM f b = .ok c ∧
      f c a = .error e' ∧ e = locate (k + before.length) a e' := by
  induction as generalizing k b with
  | nil => cases h
  | cons a as ih =>
    rw [foldNumbered] at h
    cases ha : f b a with
    | error e' =>
      rw [ha] at h
      cases h
      exact ⟨[], a, as, b, e', rfl, rfl, ha, rfl⟩
    | ok b' =>
      rw [ha] at h
      obtain ⟨before, a', after, c, e', rfl, hbefore, ha', rfl⟩ := ih h
      refine ⟨a :: before, a', after, c, e', rfl, ?_, ha', ?_⟩
      · rw [List.foldlM_cons, ha]
        exact hbefore
      · rw [List.length_cons, Nat.add_right_comm, Nat.add_assoc]

theorem foldNumbered_eq_error_iff {f : β → α → Except ε β} {locate : Nat → α → ε → ε'} {k : Nat}
    {as : List α} {b : β} {e : ε'} :
    foldNumbered (fun i b a => (f b a).mapError (locate i a)) k b as = .error e ↔
      ∃ before a after c e', as = before ++ a :: after ∧ before.foldlM f b = .ok c ∧
        f c a = .error e' ∧ e = locate (k + before.length) a e' := by
  refine ⟨foldNumbered_eq_error, ?_⟩
  rintro ⟨before, a, after, c, e', rfl, hbefore, ha, rfl⟩
  induction before generalizing k b with
  | nil =>
    cases hbefore
    rw [List.nil_append, foldNumbered, ha]
    rfl
  | cons a' before ih =>
    rw [List.foldlM_cons, bind_eq_ok_iff] at hbefore
    obtain ⟨b', hb', hbefore⟩ := hbefore
    rw [List.cons_append, foldNumbered, hb', List.length_cons, ← Nat.add_assoc, Nat.add_right_comm]
    exact ih hbefore

/-! ## Lists related element by element -/

theorem forall₂_imp_of_mem {R S : α → β → Prop} {as : List α} {bs : List β}
    (h : ∀ a ∈ as, ∀ b, R a b → S a b) (hR : List.Forall₂ R as bs) : List.Forall₂ S as bs := by
  have hmem : List.Forall₂ (fun a b => a ∈ as ∧ R a b) as bs :=
    (List.forall₂_and_left as bs).mpr ⟨fun _ ha => ha, hR⟩
  exact hmem.imp fun a b hab => h a hab.1 b hab.2

theorem forall₂_exists_left {R : α → β → Prop} {as : List α} {bs : List β}
    (h : List.Forall₂ R as bs) : ∀ b ∈ bs, ∃ a ∈ as, R a b := by
  induction h with
  | nil => exact fun b hb => absurd hb List.not_mem_nil
  | cons hab _ ih =>
    refine List.forall_mem_cons.mpr ⟨⟨_, List.mem_cons_self, hab⟩, fun b hb => ?_⟩
    obtain ⟨a, ha, hr⟩ := ih b hb
    exact ⟨a, List.mem_cons_of_mem _ ha, hr⟩

theorem forall₂_exists_right {R : α → β → Prop} {as : List α} {bs : List β}
    (h : List.Forall₂ R as bs) : ∀ a ∈ as, ∃ b ∈ bs, R a b :=
  forall₂_exists_left (R := flip R) h.flip

theorem exists_forall₂ {R : α → β → Prop} {as : List α} (h : ∀ a ∈ as, ∃ b, R a b) :
    ∃ bs, List.Forall₂ R as bs := by
  induction as with
  | nil => exact ⟨[], .nil⟩
  | cons a as ih =>
    obtain ⟨⟨b, hb⟩, hrest⟩ := List.forall_mem_cons.mp h
    obtain ⟨bs, hbs⟩ := ih hrest
    exact ⟨b :: bs, .cons hb hbs⟩

/-- Where the relation is a function, a part of the first list is related to a part of the second. -/
theorem sublist_of_forall₂ {R : α → β → Prop} (hfun : ∀ a b b', R a b → R a b' → b = b')
    {as as' : List α} (hsub : as.Sublist as') {bs bs' : List β} (h : List.Forall₂ R as bs)
    (h' : List.Forall₂ R as' bs') : bs.Sublist bs' := by
  induction hsub generalizing bs bs' with
  | slnil =>
    cases h
    exact List.nil_sublist bs'
  | cons a _ ih =>
    cases h' with
    | cons _ h' => exact (ih h h').cons _
  | cons_cons a _ ih =>
    cases h with
    | cons hab h =>
      cases h' with
      | cons hab' h' =>
        obtain rfl := hfun _ _ _ hab hab'
        exact (ih h h').cons_cons _

theorem forall₂_zip {R : α → β → Prop} {as : List α} {bs : List β}
    (h : List.Forall₂ R as bs) : List.Forall₂ (fun a p => p.1 = a ∧ R a p.2) as (as.zip bs) := by
  induction h with
  | nil => exact .nil
  | cons hab _ ih => exact .cons ⟨rfl, hab⟩ ih

theorem forall₂_comp {R : α → γ → Prop} {S : β → γ → Prop} {as : List α}
    {bs : List β} {cs : List γ} (hR : List.Forall₂ R as cs) (hS : List.Forall₂ S bs cs) :
    List.Forall₂ (fun a b => ∃ c, R a c ∧ S b c) as bs := by
  induction hR generalizing bs with
  | nil =>
    cases hS
    exact .nil
  | cons hac _ ih =>
    cases hS with
    | cons hbc hS => exact .cons ⟨_, hac, hbc⟩ (ih hS)

/-! ## Cells of a row -/

namespace Record

variable {row : Record} {column : String}

theorem required_eq_ok_iff {v : Value} :
    row.required column = .ok v ↔ row.field? column = some v := by
  unfold required
  cases row.field? column <;> simp

theorem required_eq_error_iff {e : DefinitionError} :
    row.required column = .error e ↔ row.field? column = none ∧ e = .missingField column := by
  unfold required
  cases row.field? column <;> simp [eq_comm]

theorem requiredText_eq_ok_iff {s : String} :
    row.requiredText column = .ok s ↔ ∃ v, row.field? column = some v ∧ Text.trim v.toText = s := by
  simp only [requiredText, bind_eq_ok_iff, required_eq_ok_iff, pure, Except.pure, Except.ok.injEq]

theorem requiredText_eq_error_iff {e : DefinitionError} :
    row.requiredText column = .error e ↔ row.field? column = none ∧ e = .missingField column := by
  simp [requiredText, bind_eq_error_iff, required_eq_error_iff, pure, Except.pure]

end Record

end ClassificationKey
