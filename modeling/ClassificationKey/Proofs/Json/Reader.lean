import ClassificationKey.Json.Reader
import ClassificationKey.Proofs.Number.Finite
import ClassificationKey.Proofs.Row

/-!
# Numbers in a text

Every number in a document that was read from a text is finite, and its integers fit 64 bits and a
sign (`isFinite_of_read?`): a number that is too large for a double makes the document void.
-/

namespace ClassificationKey.Json

open Binary64

/-- The integers fit 64 bits and a sign, and the other numbers are finite. -/
inductive IsFinite : Json → Prop where
  | null : IsFinite .null
  | bool (b : Bool) : IsFinite (.bool b)
  | integer {i : Int} (h : i.natAbs ≤ 2 ^ 64) : IsFinite (.integer i)
  | float {x : Binary64} (h : x.isFinite = true) : IsFinite (.float x)
  | text (s : String) : IsFinite (.text s)
  | array {items : List Json} (h : ∀ item ∈ items, IsFinite item) : IsFinite (.array items)
  | object {members : List (String × Json)} (h : ∀ member ∈ members, IsFinite member.2) :
    IsFinite (.object members)
  | void : IsFinite .void

/-! ## Numbers -/

theorem absorb_lt {significand : Nat} (h : significand < UInt64.size) (taken : Nat)
    (ds : List Char) : (absorb significand taken ds).1 < UInt64.size := by
  induction ds generalizing significand taken with
  | nil => exact h
  | cons d ds ih =>
    rw [absorb]
    split
    · next hnext => exact ih hnext (taken + 1)
    · exact h

theorem isFinite_div_powerOfTen {x : Binary64} (hx : x.isFinite = true) {n : Nat} (hn : n ≤ 308) :
    (x.div (powerOfTen n)).isFinite = true :=
  isFinite_div hx (isAtLeastOne_powerOfTen hn)

theorem isFinite_scale_of_small {fuel : Nat} {x y : Binary64} {e : Int} (hx : x.isFinite = true)
    (he : e.natAbs ≤ 308) (h : scale fuel x e = some y) : y.isFinite = true := by
  rw [scale.eq_def] at h
  dsimp only at h
  rw [if_pos he] at h
  split at h
  · rw [Option.ite_none_right_eq_some, Option.some.injEq] at h
    obtain ⟨hfinite, rfl⟩ := h
    exact hfinite
  · cases h
    exact isFinite_div_powerOfTen hx he

theorem isFinite_scale {fuel : Nat} {x y : Binary64} {e : Int} (hx : x.isFinite = true)
    (h : scale fuel x e = some y) : y.isFinite = true := by
  induction fuel generalizing x e with
  | zero =>
    by_cases he : e.natAbs ≤ 308
    · exact isFinite_scale_of_small hx he h
    · rw [scale, if_neg he] at h
      split at h
      · cases h
        exact hx
      · split at h
        · cases h
        · cases h
          decide
  | succ fuel ih =>
    by_cases he : e.natAbs ≤ 308
    · exact isFinite_scale_of_small hx he h
    · rw [scale, if_neg he] at h
      split at h
      · cases h
        exact hx
      · split at h
        · cases h
        · exact ih (isFinite_div_powerOfTen hx (Nat.le_refl 308)) h

theorem NumberText.isFinite_toBinary64? {t : NumberText} {x : Binary64}
    (h : t.toBinary64? = some x) : x.isFinite = true := by
  rw [toBinary64?] at h
  rcases hwhole : absorb 0 0 t.whole with ⟨head, taken⟩
  rcases hfraction : absorb head 0 t.fraction with ⟨significand, behind⟩
  have hhead : head < UInt64.size := by
    have hlt := absorb_lt (show 0 < UInt64.size by decide) 0 t.whole
    rwa [hwhole] at hlt
  have hsignificand : (Binary64.ofNat significand).isFinite = true := by
    have hlt := absorb_lt hhead 0 t.fraction
    rw [hfraction] at hlt
    exact isFinite_nearest_word false hlt.le
  simp only [hwhole, hfraction, Option.map_eq_some_iff] at h
  obtain ⟨y, hy, rfl⟩ := h
  have hfinite : y.isFinite = true := by
    split at hy
    · exact isFinite_scale hsignificand hy
    · rw [Option.ite_none_left_eq_some, Option.some.injEq] at hy
      rw [← hy.2]
      decide
  cases t.negative with
  | false => exact hfinite
  | true => exact (isFinite_neg y).trans hfinite

theorem NumberText.isFinite_toJson (t : NumberText) : t.toJson.IsFinite := by
  rw [toJson]
  by_cases hfits : (decide (t.fraction = []) && decide (t.exponent = none) &&
      if t.negative = true then decide (0 < Number.digitsValue t.whole) &&
        decide (Number.digitsValue t.whole ≤ 1 <<< 63)
      else decide (Number.digitsValue t.whole < UInt64.size)) = true
  · rw [if_pos hfits]
    rw [Bool.and_eq_true] at hfits
    have hbound := hfits.2
    refine .integer ?_
    cases hnegative : t.negative with
    | false =>
      rw [hnegative] at hbound
      have hlt : Number.digitsValue t.whole < 2 ^ 64 := of_decide_eq_true hbound
      exact hlt.le
    | true =>
      rw [hnegative, if_pos rfl, Bool.and_eq_true, decide_eq_true_eq, decide_eq_true_eq] at hbound
      rw [if_pos rfl, Int.natAbs_neg, Int.natAbs_natCast]
      omega
  · rw [if_neg hfits]
    split
    · next x hread => exact .float (isFinite_toBinary64? hread)
    · exact .void

/-! ## Documents -/

theorem isFinite_objectOf {members : List ReadMember} (h : ∀ member ∈ members, member.2.IsFinite) :
    (objectOf members).IsFinite := by
  rw [objectOf]
  split
  · next named hnamed =>
    refine .object fun member hmember => ?_
    obtain ⟨read, hread, hname⟩ := forall₂_exists_left (mapM_eq_some_iff.mp hnamed) member hmember
    obtain ⟨name, -, rfl⟩ := Option.map_eq_some_iff.mp hname
    exact h read hread
  · exact .void

theorem isFinite_readDocument_succ {fuel : Nat} {cs rest : List Char} {json : Json}
    (hitems : ∀ cs items rest, readItems fuel cs = some (items, rest) → ∀ item ∈ items, item.IsFinite)
    (hmembers : ∀ cs members rest, readMembers fuel cs = some (members, rest) →
      ∀ member ∈ members, member.2.IsFinite)
    (h : readDocument (fuel + 1) cs = some (json, rest)) : json.IsFinite := by
  rw [readDocument] at h
  split at h
  · cases h
    exact .null
  · cases h
    exact .bool true
  · cases h
    exact .bool false
  · obtain ⟨⟨content, rest'⟩, -, heq⟩ := Option.map_eq_some_iff.mp h
    cases content with
    | some s =>
      cases heq
      exact .text _
    | none =>
      cases heq
      exact .void
  · split at h
    · cases h
      exact .array (by simp)
    · obtain ⟨⟨items, rest'⟩, hread, heq⟩ := Option.map_eq_some_iff.mp h
      cases heq
      exact .array (hitems _ _ _ hread)
  · split at h
    · cases h
      exact .object (by simp)
    · obtain ⟨⟨members, rest'⟩, hread, heq⟩ := Option.map_eq_some_iff.mp h
      cases heq
      exact isFinite_objectOf (hmembers _ _ _ hread)
  · obtain ⟨⟨t, rest'⟩, -, heq⟩ := Option.map_eq_some_iff.mp h
    cases heq
    exact t.isFinite_toJson

theorem isFinite_readItems_succ {fuel : Nat} {cs rest : List Char} {items : List Json}
    (hdocument : ∀ cs json rest, readDocument fuel cs = some (json, rest) → json.IsFinite)
    (hitems : ∀ cs items rest, readItems fuel cs = some (items, rest) → ∀ item ∈ items, item.IsFinite)
    (h : readItems (fuel + 1) cs = some (items, rest)) : ∀ item ∈ items, item.IsFinite := by
  rw [readItems] at h
  split at h
  · cases h
  · next item rest' hread =>
    have hitem := hdocument _ _ _ hread
    split at h
    · cases h
      exact List.forall_mem_singleton.mpr hitem
    · obtain ⟨⟨others, rest''⟩, hothers, heq⟩ := Option.map_eq_some_iff.mp h
      cases heq
      exact List.forall_mem_cons.mpr ⟨hitem, hitems _ _ _ hothers⟩
    · cases h

theorem isFinite_readMembers_succ {fuel : Nat} {cs rest : List Char} {members : List ReadMember}
    (hdocument : ∀ cs json rest, readDocument fuel cs = some (json, rest) → json.IsFinite)
    (hmembers : ∀ cs members rest, readMembers fuel cs = some (members, rest) →
      ∀ member ∈ members, member.2.IsFinite)
    (h : readMembers (fuel + 1) cs = some (members, rest)) :
    ∀ member ∈ members, member.2.IsFinite := by
  rw [readMembers] at h
  split at h
  · split at h
    · cases h
    · split at h
      · split at h
        · cases h
        · next value rest' hread =>
          have hvalue := hdocument _ _ _ hread
          split at h
          · cases h
            exact List.forall_mem_singleton.mpr hvalue
          · obtain ⟨⟨others, rest''⟩, hothers, heq⟩ := Option.map_eq_some_iff.mp h
            cases heq
            exact List.forall_mem_cons.mpr ⟨hvalue, hmembers _ _ _ hothers⟩
          · cases h
      · cases h
  · cases h

theorem isFinite_of_reads (fuel : Nat) :
    (∀ cs json rest, readDocument fuel cs = some (json, rest) → json.IsFinite) ∧
      (∀ cs items rest, readItems fuel cs = some (items, rest) → ∀ item ∈ items, item.IsFinite) ∧
      ∀ cs members rest, readMembers fuel cs = some (members, rest) →
        ∀ member ∈ members, member.2.IsFinite := by
  induction fuel with
  | zero =>
    refine ⟨?_, ?_, ?_⟩ <;> intro cs result rest h
    · simp [readDocument] at h
    · simp [readItems] at h
    · simp [readMembers] at h
  | succ fuel ih =>
    obtain ⟨hdocument, hitems, hmembers⟩ := ih
    exact ⟨fun _ _ _ => isFinite_readDocument_succ hitems hmembers,
      fun _ _ _ => isFinite_readItems_succ hdocument hitems,
      fun _ _ _ => isFinite_readMembers_succ hdocument hmembers⟩

/-- Every number of a document that a text holds is finite. -/
theorem isFinite_of_read? {s : String} {json : Json} (h : read? s = some json) : json.IsFinite := by
  rw [read?] at h
  split at h
  · next json' rest hread =>
    rw [Option.ite_none_right_eq_some, Option.some.injEq] at h
    rw [← h.2]
    exact (isFinite_of_reads _).1 _ _ _ hread
  · cases h

end ClassificationKey.Json
