import ClassificationKey.Proofs.Number.Rounding
import Mathlib.Algebra.Order.Field.Basic
import Mathlib.Algebra.Order.Field.Rat
import Mathlib.Data.Rat.Cast.Order
import Mathlib.Tactic.FieldSimp
import Mathlib.Tactic.Ring

/-!
# Doubles as rationals

A finite double is a rational (`toRat?`). Two doubles are equal exactly when they are the same
rational (`eq_iff_toRat?`), the zeros being one number. What is rounded becomes a double to which no
other is nearer (`isNearest_nearest`), so an integer that is a double is left alone
(`toRat?_ofInt`).
-/

namespace ClassificationKey.Binary64

variable {x y : Binary64} {q r : ℚ}

/-- The rational that a finite double is. -/
def toRat? (x : Binary64) : Option ℚ := x.signedUnits?.map fun u : ℤ => (u : ℚ) / unitsPerOne

/-- `q` is a double, and no double is nearer to `r`. -/
structure IsNearest (r q : ℚ) : Prop where
  exists_double : ∃ x : Binary64, x.toRat? = some q
  le : ∀ (y : Binary64) (q' : ℚ), y.toRat? = some q' → |q - r| ≤ |q' - r|

/-! ## Units -/

theorem unitsPerOne_pos : 0 < unitsPerOne := by
  rw [unitsPerOne, Nat.one_shiftLeft]
  exact Nat.two_pow_pos 1074

theorem unitsPerOne_ne_zero : (unitsPerOne : ℚ) ≠ 0 := mod_cast unitsPerOne_pos.ne'

/-- The powers of ten between which the doubles lie: `10 ^ 308` is finite, `10 ^ 310` is not, and
`1 / 10 ^ 331` is less than half the least of them. The exponent has a name because the powers are
too long to be written out by a tactic. -/
theorem exists_range :
    ∃ k, k = 308 ∧ 10 ^ k * unitsPerOne ≤ units (topRank - 1) ∧
      units topRank < 10 ^ (k + 2) * unitsPerOne ∧ 2 * unitsPerOne ≤ 10 ^ (k + 23) :=
  ⟨308, rfl, by decide +kernel⟩

theorem toRat?_eq_some_iff :
    x.toRat? = some q ↔ ∃ u, x.signedUnits? = some u ∧ (u / unitsPerOne : ℚ) = q := by
  rw [toRat?, Option.map_eq_some_iff]

theorem toRat?_eq_some_intCast_iff {i : ℤ} :
    x.toRat? = some (i : ℚ) ↔ x.signedUnits? = some (i * unitsPerOne) := by
  rw [toRat?_eq_some_iff]
  constructor
  · rintro ⟨u, hu, hi⟩
    rw [div_eq_iff unitsPerOne_ne_zero] at hi
    rw [hu, Option.some.injEq]
    exact_mod_cast hi
  · intro h
    refine ⟨_, h, ?_⟩
    rw [div_eq_iff unitsPerOne_ne_zero]
    push_cast
    ring

theorem whole?_eq_some_iff {i : ℤ} : x.whole? = some i ↔ x.toRat? = some (i : ℚ) := by
  rw [toRat?_eq_some_intCast_iff, whole?, Option.bind_eq_some_iff]
  have hpos : (unitsPerOne : ℤ) ≠ 0 := mod_cast unitsPerOne_pos.ne'
  constructor
  · rintro ⟨u, hu, hi⟩
    split at hi
    · next hdvd =>
      cases hi
      rw [hu, Int.ediv_mul_cancel (Int.dvd_of_emod_eq_zero hdvd)]
    · cases hi
  · intro h
    refine ⟨_, h, ?_⟩
    rw [if_pos (Int.mul_emod_left i _), Int.mul_ediv_cancel i hpos]

/-! ## Equality -/

/-- The signed magnitude of a place in the order. -/
def placeUnits (i : ℤ) : ℤ := i.sign * units i.natAbs

theorem natAbs_placeUnits (i : ℤ) : (placeUnits i).natAbs = units i.natAbs := by
  rw [placeUnits, Int.natAbs_mul, Int.natAbs_natCast]
  rcases eq_or_ne i 0 with rfl | hi
  · rfl
  · rw [Int.natAbs_sign_of_ne_zero hi, Nat.one_mul]

theorem sign_placeUnits (i : ℤ) : (placeUnits i).sign = i.sign := by
  rw [placeUnits, Int.sign_mul, Int.sign_sign]
  rcases eq_or_ne i 0 with rfl | hi
  · rfl
  · have hpos : 0 < units i.natAbs := units_zero ▸ units_strictMono (Int.natAbs_pos.mpr hi)
    rw [Int.sign_natCast_of_ne_zero hpos.ne', mul_one]

theorem placeUnits_injective : Function.Injective placeUnits := by
  intro i j h
  have habs : i.natAbs = j.natAbs := by
    refine units_strictMono.injective ?_
    rw [← natAbs_placeUnits, ← natAbs_placeUnits, h]
  rw [← Int.sign_mul_natAbs i, ← Int.sign_mul_natAbs j, habs, ← sign_placeUnits i,
    ← sign_placeUnits j, h]

theorem signedUnits?_eq_bind_place? (x : Binary64) :
    x.signedUnits? =
      x.place?.bind fun i => if i.natAbs < topRank then some (placeUnits i) else none := by
  cases x with
  | nan => rfl
  | signed negative rank =>
    rcases Nat.eq_zero_or_pos rank.val with hzero | hpos
    · cases negative <;> simp [signedUnits?, place?, placeUnits, hzero]
    · cases negative <;>
        simp [signedUnits?, place?, placeUnits, Int.sign_eq_one_of_pos (Int.natCast_pos.mpr hpos)]

theorem eq_iff_place? : x.eq y = true ↔ ∃ i, x.place? = some i ∧ y.place? = some i := by
  unfold eq compareBy
  cases x.place? with
  | none => simp
  | some i =>
    cases y.place? with
    | none => simp
    | some j => simpa using eq_comm

/-- Doubles of which one is finite are equal when they are the same rational. -/
theorem eq_iff_toRat? (hy : y.toRat? = some q) : x.eq y = true ↔ x.toRat? = some q := by
  rw [eq_iff_place?]
  constructor
  · rintro ⟨i, hxi, hyi⟩
    rw [← hy, toRat?, toRat?, signedUnits?_eq_bind_place?, signedUnits?_eq_bind_place?, hxi, hyi]
  · intro hx
    obtain ⟨u, hu, rfl⟩ := toRat?_eq_some_iff.mp hx
    obtain ⟨v, hv, hvu⟩ := toRat?_eq_some_iff.mp hy
    rw [div_left_inj' unitsPerOne_ne_zero, Int.cast_inj] at hvu
    subst hvu
    rw [signedUnits?_eq_bind_place?, Option.bind_eq_some_iff] at hu hv
    obtain ⟨i, hi, hui⟩ := hu
    obtain ⟨j, hj, huj⟩ := hv
    rw [Option.ite_none_right_eq_some] at hui huj
    have hij : i = j := placeUnits_injective (Option.some.inj (hui.2.trans huj.2.symm))
    exact ⟨i, hi, hij ▸ hj⟩

/-! ## Rounded quotients -/

/-- A number or its negative. -/
def signedBy (negative : Bool) (u : ℤ) : ℤ := if negative then -u else u

theorem signedUnits?_ofRank {negative : Bool} {n : Nat} (h : n < topRank) :
    (ofRank negative n).signedUnits? = some (signedBy negative (units n)) := by
  simp [ofRank, signedUnits?, signedBy, h, Nat.min_eq_left h.le]

theorem signedUnits?_ofRank_eq_some {negative : Bool} {n : Nat} {u : ℤ}
    (h : (ofRank negative n).signedUnits? = some u) : u = signedBy negative (units n) := by
  have hlt : n < topRank := by
    by_contra hge
    simp [ofRank, signedUnits?, Nat.min_eq_right (Nat.le_of_not_lt hge)] at h
  rw [signedUnits?_ofRank hlt, Option.some.injEq] at h
  exact h.symm

theorem toRat?_ofRank_zero (negative : Bool) : (ofRank negative 0).toRat? = some 0 := by
  have hzero : signedBy negative (units 0) = 0 := by cases negative <;> rfl
  rw [toRat?, signedUnits?_ofRank (by decide), hzero, Option.map_some, Int.cast_zero, zero_div]

theorem toRat?_ofRank_topRank (negative : Bool) : (ofRank negative topRank).toRat? = none := by
  simp [toRat?, ofRank, signedUnits?]

/-- A double that is an integer is what the integer is read as. -/
theorem toRat?_ofInt {i : ℤ} (h : x.toRat? = some (i : ℚ)) : (ofInt i).toRat? = some (i : ℚ) := by
  rw [toRat?_eq_some_intCast_iff] at h ⊢
  have hplace := h
  rw [signedUnits?_eq_bind_place?, Option.bind_eq_some_iff] at hplace
  obtain ⟨j, -, hj⟩ := hplace
  rw [Option.ite_none_right_eq_some, Option.some.injEq] at hj
  obtain ⟨hlt, hj⟩ := hj
  have hunits : units j.natAbs * 1 = i.natAbs * unitsPerOne := by
    rw [Nat.mul_one, ← natAbs_placeUnits, hj, Int.natAbs_mul, Int.natAbs_natCast]
  rw [ofInt, nearest, nearestRank_of_eq Nat.one_pos hunits, signedUnits?_ofRank hlt,
    ← Nat.mul_one (units j.natAbs), hunits, signedBy, Option.some.injEq]
  push_cast
  rcases lt_or_ge i 0 with hi | hi
  · rw [if_pos (decide_eq_true hi), abs_of_neg hi]
    ring
  · rw [if_neg (by simpa using hi), abs_of_nonneg hi]

/-- The bounds of 64 bits: the lower one is a double, and the upper one is rounded up. -/
theorem toRat?_ofInt_bounds :
    (ofInt Int64.minValue.toInt).toRat? = some (Int64.minValue.toInt : ℚ) ∧
      (ofInt Int64.maxValue.toInt).toRat? = some ((Int64.maxValue.toInt + 1 : ℤ) : ℚ) := by
  decide +kernel

/-- No double is nearer to a quotient than the one it is rounded to. -/
theorem isNearest_nearest {negative : Bool} {num den : Nat} (hden : 0 < den)
    (h : (nearest negative num den).toRat? = some q) :
    IsNearest (signedBy negative num / (den * unitsPerOne)) q := by
  refine ⟨⟨_, h⟩, fun y q' hy => ?_⟩
  obtain ⟨u, hu, rfl⟩ := toRat?_eq_some_iff.mp h
  obtain ⟨v, hv, rfl⟩ := toRat?_eq_some_iff.mp hy
  obtain rfl := signedUnits?_ofRank_eq_some hu
  rw [signedUnits?_eq_bind_place?, Option.bind_eq_some_iff] at hv
  obtain ⟨j, -, hj⟩ := hv
  rw [Option.ite_none_right_eq_some, Option.some.injEq] at hj
  obtain rfl := hj.2
  have hpos : (0 : ℚ) < den * unitsPerOne := mod_cast Nat.mul_pos hden unitsPerOne_pos
  -- Over the common denominator it is about integers.
  have hcommon : ∀ w : ℤ, |(w / unitsPerOne - signedBy negative num / (den * unitsPerOne) : ℚ)| =
      (|w * den - signedBy negative num| : ℤ) / (den * unitsPerOne) := by
    intro w
    have hU := unitsPerOne_ne_zero
    have hD : (den : ℚ) ≠ 0 := mod_cast hden.ne'
    have heq : (w / unitsPerOne - signedBy negative num / (den * unitsPerOne) : ℚ) =
        ((w * den - signedBy negative num : ℤ) : ℚ) / (den * unitsPerOne) := by
      push_cast
      field_simp
    rw [heq, abs_div, abs_of_pos hpos, Int.cast_abs]
  rw [hcommon, hcommon]
  refine div_le_div_of_nonneg_right ?_ hpos.le
  have hnearest := nearestRank_nearest num hden j.natAbs
  rw [← natAbs_placeUnits] at hnearest
  have hfar : |((placeUnits j).natAbs * den : ℤ) - num| ≤
      |placeUnits j * den - signedBy negative num| := by
    have habs : |signedBy negative num| = num := by
      cases negative <;> simp [signedBy]
    have hle := abs_abs_sub_abs_le (placeUnits j * den) (signedBy negative num)
    rwa [abs_mul, habs, Nat.abs_cast, Int.abs_eq_natAbs (placeUnits j)] at hle
  have hsame : |signedBy negative (units (nearestRank num den)) * den - signedBy negative num| =
      |(units (nearestRank num den) * den : ℤ) - num| := by
    cases negative with
    | false => rfl
    | true =>
      have hneg : signedBy true (units (nearestRank num den)) * den - signedBy true num =
          -((units (nearestRank num den) * den : ℤ) - num) := by
        simp only [signedBy, if_true]
        ring
      rw [hneg, abs_neg]
  rw [hsame]
  exact_mod_cast hnearest.trans hfar

end ClassificationKey.Binary64
