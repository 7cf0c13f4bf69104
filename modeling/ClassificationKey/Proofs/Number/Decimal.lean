import ClassificationKey.Number.Decimal
import ClassificationKey.Proofs.Number.Double
import Mathlib.Algebra.Order.Field.Power
import Mathlib.Data.List.TakeWhile
import Mathlib.Tactic.Linarith
import Mathlib.Tactic.NormNum

/-!
# What numerals denote

A numeral denotes an exact rational (`numeralValue?`). The double that it is read as, where this is
finite, is one to which no other double is nearer (`isNearest_of_readBinary64?`). A text that is read
as an integer is a numeral too, and denotes that integer (`numeralValue?_of_readInteger?`).
-/

namespace ClassificationKey.Number

open Binary64

/-- The rational that a decimal is. -/
def Decimal.toRat (d : Decimal) : ℚ := signedBy d.negative d.coefficient * 10 ^ d.exponent

/-- The rational that a numeral denotes, infinities and `nan` denoting none. -/
def Numeral.toRat? : Numeral → Option ℚ
  | .decimal d => some d.toRat
  | .infinite _ => none
  | .nan => none

/-- The rational that a text writes, if it is a numeral of one. -/
def numeralValue? (cs : List Char) : Option ℚ := (readNumeral? cs).bind Numeral.toRat?

/-! ## Lengths of coefficients -/

theorem decimalLength_le_iff {n k : Nat} (hk : 0 < k) : decimalLength n ≤ k ↔ n < 10 ^ k :=
  Nat.length_toDigits_le_iff (by decide) hk

theorem lt_pow_decimalLength (n : Nat) : n < 10 ^ decimalLength n :=
  (decimalLength_le_iff Nat.length_toDigits_pos).mp le_rfl

theorem pow_decimalLength_le {n : Nat} (hn : n ≠ 0) : 10 ^ (decimalLength n - 1) ≤ n := by
  by_contra hlt
  rcases Nat.eq_zero_or_pos (decimalLength n - 1) with hzero | hpos
  · rw [hzero, Nat.pow_zero] at hlt
    omega
  · have hle := (decimalLength_le_iff hpos).mpr (Nat.lt_of_not_le hlt)
    omega

/-! ## Reading a decimal as a double -/

namespace Decimal

variable (d : Decimal)

theorem abs_toRat : |d.toRat| = d.coefficient * 10 ^ d.exponent := by
  have hsign : |(signedBy d.negative d.coefficient : ℚ)| = d.coefficient := by
    cases d.negative <;> simp [signedBy]
  have hpow : (0 : ℚ) ≤ 10 ^ d.exponent := zpow_nonneg (by norm_num) d.exponent
  rw [toRat, abs_mul, hsign, abs_of_nonneg hpow]

/-- The size of a decimal bounds its magnitude. -/
theorem abs_toRat_lt : |d.toRat| < 10 ^ ((decimalLength d.coefficient : ℤ) + d.exponent) := by
  have hlength := lt_pow_decimalLength d.coefficient
  rw [abs_toRat, zpow_add₀ (by norm_num), zpow_natCast]
  exact mul_lt_mul_of_pos_right (mod_cast hlength) (zpow_pos (by norm_num) d.exponent)

/-- The decimal as a fraction of two natural numbers. -/
theorem toRat_eq_div :
    d.toRat = signedBy d.negative (d.coefficient * 10 ^ d.exponent.toNat : ℕ) /
      (10 ^ (-d.exponent).toNat : ℕ) := by
  have hpow : (10 : ℚ) ^ d.exponent = 10 ^ d.exponent.toNat / 10 ^ (-d.exponent).toNat := by
    rw [← zpow_natCast, ← zpow_natCast, ← zpow_sub₀ (by norm_num)]
    congr 1
    omega
  rw [toRat, hpow]
  cases d.negative <;> simp [signedBy] <;> ring

end Decimal

/-- What is less than half a unit is nearest to zero. -/
theorem isNearest_zero {r : ℚ} (hr : 2 * |r| * unitsPerOne ≤ 1) : IsNearest r 0 := by
  refine ⟨⟨ofRank false 0, toRat?_ofRank_zero false⟩, fun y q' hy => ?_⟩
  obtain ⟨u, -, rfl⟩ := toRat?_eq_some_iff.mp hy
  have hpos : (0 : ℚ) < unitsPerOne := mod_cast unitsPerOne_pos
  rw [zero_sub, abs_neg]
  rcases eq_or_ne u 0 with rfl | hu
  · simp
  · have hone : (1 : ℚ) ≤ |(u : ℚ)| := mod_cast Int.one_le_abs hu
    have hunit : 2 * |r| ≤ |(u / unitsPerOne : ℚ)| := by
      rw [abs_div, abs_of_pos hpos, le_div_iff₀ hpos]
      exact hr.trans hone
    linarith [abs_sub_abs_le_abs_sub (u / unitsPerOne : ℚ) r]

/-- The double that a decimal is read as is nearest to it. -/
theorem Decimal.isNearest_toBinary64 (d : Decimal) {q : ℚ} (h : d.toBinary64.toRat? = some q) :
    IsNearest d.toRat q := by
  unfold toBinary64 at h
  dsimp only at h
  split at h
  · next hsmall =>
    obtain rfl : 0 = q := by rwa [toRat?_ofRank_zero, Option.some.injEq] at h
    refine isNearest_zero ?_
    rw [Bool.or_eq_true, decide_eq_true_eq, decide_eq_true_eq] at hsmall
    rcases hsmall with hcoefficient | hsize
    · rw [abs_toRat, hcoefficient]
      norm_num
    · obtain ⟨k, hk, -, -, hpowers⟩ := exists_range
      have htiny : |d.toRat| ≤ 10 ^ (-(k + 23 : ℕ) : ℤ) :=
        d.abs_toRat_lt.le.trans (zpow_le_zpow_right₀ (by norm_num) (by omega))
      have hunits : 2 * (10 : ℚ) ^ (-(k + 23 : ℕ) : ℤ) * unitsPerOne ≤ 1 := by
        rw [mul_right_comm, zpow_neg, zpow_natCast]
        exact mul_inv_le_one_of_le₀ (mod_cast hpowers) (by positivity)
      have hpos : (0 : ℚ) ≤ unitsPerOne := Nat.cast_nonneg _
      exact (mul_le_mul_of_nonneg_right (mul_le_mul_of_nonneg_left htiny zero_le_two) hpos).trans
        hunits
  · split at h
    · rw [toRat?_ofRank_topRank] at h
      cases h
    · have hden : 0 < Nat.pow 10 (-d.exponent).toNat := Nat.pow_pos (by decide)
      have hnearest := isNearest_nearest hden h
      convert hnearest using 1
      rw [toRat_eq_div, Nat.pow_eq, Nat.pow_eq]
      have hU := unitsPerOne_ne_zero
      cases d.negative <;> simp [signedBy] <;> field_simp

theorem isNearest_of_readBinary64? {cs : List Char} {x : Binary64} {q : ℚ}
    (h : readBinary64? cs = some x) (hx : x.toRat? = some q) :
    ∃ r, numeralValue? cs = some r ∧ IsNearest r q := by
  obtain ⟨n, hn, rfl⟩ := Option.map_eq_some_iff.mp h
  cases n with
  | nan => cases hx
  | infinite negative =>
    rw [Numeral.toBinary64, toRat?_ofRank_topRank] at hx
    cases hx
  | decimal d =>
    refine ⟨d.toRat, ?_, d.isNearest_toBinary64 hx⟩
    rw [numeralValue?, hn]
    rfl

/-! ## Integers -/

theorem inRange_iff {i : ℤ} : inRange i = true ↔ -2 ^ 63 ≤ i ∧ i < 2 ^ 63 := by
  have hmin : Int64.minValue.toInt = -2 ^ 63 := by decide
  have hmax : Int64.maxValue.toInt = 2 ^ 63 - 1 := by decide
  rw [inRange, hmin, hmax, Bool.and_eq_true, decide_eq_true_eq, decide_eq_true_eq]
  omega

theorem toLower_of_isDigit {c : Char} (h : c.isDigit = true) : c.toLower = c := by
  have hranges : (decide (48 ≤ c.val) && decide (c.val ≤ 57)) = true := h
  rw [Bool.and_eq_true, decide_eq_true_eq, decide_eq_true_eq, UInt32.le_iff_toNat_le,
    UInt32.le_iff_toNat_le] at hranges
  refine dif_neg fun hupper => ?_
  have hfirst : 65 ≤ c.val.toNat := UInt32.le_iff_toNat_le.mp hupper.1
  have hlast : c.val.toNat ≤ 57 := hranges.2
  omega

theorem map_toLower_of_isDigit {ds : List Char} (h : ds.all Char.isDigit = true) :
    ds.map Char.toLower = ds := by
  rw [List.all_eq_true] at h
  conv_rhs => rw [← List.map_id ds]
  exact List.map_congr_left fun c hc => toLower_of_isDigit (h c hc)

theorem readInteger?_eq_some_iff {cs : List Char} {i : Int64} :
    readInteger? cs = some i ↔
      (splitSign cs).2 ≠ [] ∧ (splitSign cs).2.all Char.isDigit = true ∧
        signedBy (splitSign cs).1 (digitsValue (splitSign cs).2) = i.toInt := by
  unfold readInteger?
  simp only [Option.ite_none_right_eq_some, Bool.and_eq_true, decide_eq_true_eq, and_assoc,
    Option.some.injEq]
  refine and_congr_right fun _ => and_congr_right fun _ => ?_
  change inRange (signedBy _ _) = true ∧ Int64.ofInt (signedBy _ _) = i ↔ _
  rw [inRange_iff]
  constructor
  · rintro ⟨⟨hmin, hmax⟩, rfl⟩
    exact (Int64.toInt_ofInt_of_le hmin hmax).symm
  · intro h
    rw [h, Int64.ofInt_toInt]
    exact ⟨⟨i.le_toInt, i.toInt_lt⟩, rfl⟩

/-- A text that is read as an integer denotes it. -/
theorem numeralValue?_of_readInteger? {cs : List Char} {i : Int64} (h : readInteger? cs = some i) :
    numeralValue? cs = some (i.toInt : ℚ) := by
  obtain ⟨hne, hdigits, hi⟩ := readInteger?_eq_some_iff.mp h
  have hletter : ∀ {w : List Char}, 'n' ∈ w → (splitSign cs).2.map Char.toLower ≠ w := by
    rintro w hw heq
    rw [map_toLower_of_isDigit hdigits] at heq
    rw [List.all_eq_true] at hdigits
    exact absurd (hdigits 'n' (heq ▸ hw)) (by decide)
  have hdecimal : readDecimal? (splitSign cs).1 (splitSign cs).2 =
      some ⟨(splitSign cs).1, digitsValue (splitSign cs).2, 0⟩ := by
    have hspan : (splitSign cs).2.span Char.isDigit = ((splitSign cs).2, []) := by
      rw [List.all_eq_true] at hdigits
      rw [List.span_eq_takeWhile_dropWhile, List.takeWhile_eq_self_iff.mpr hdigits,
        List.dropWhile_eq_nil_iff.mpr hdigits]
    simp only [readDecimal?, hspan]
    simp [splitFraction, readExponent?, hne]
  have hnumeral : readNumeral? cs =
      some (.decimal ⟨(splitSign cs).1, digitsValue (splitSign cs).2, 0⟩) := by
    simp [readNumeral?, hdecimal, hletter]
  rw [numeralValue?, hnumeral, ← hi]
  simp [Numeral.toRat?, Decimal.toRat]

end ClassificationKey.Number
