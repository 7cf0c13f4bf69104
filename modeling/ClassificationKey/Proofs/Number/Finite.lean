import ClassificationKey.Number.Decimal
import ClassificationKey.Proofs.Number.Double

/-!
# Finite results

Rounding yields a finite double where a finite magnitude bounds the exact result
(`isFinite_nearest`). So integers of 64 bits are finite doubles, and so is what is divided by a number
that is at least one (`isFinite_div`).
-/

namespace ClassificationKey.Binary64

theorem isFinite_ofRank {n : Nat} (negative : Bool) (h : n < topRank) :
    (ofRank negative n).isFinite = true := by
  simp [ofRank, isFinite, Nat.min_eq_left h.le, h]

theorem isFinite_nearest {num den n : Nat} (negative : Bool) (hden : 0 < den) (hn : n < topRank)
    (h : num ≤ units n * den) : (nearest negative num den).isFinite = true :=
  isFinite_ofRank negative ((nearestRank_le hden h).trans_lt hn)

theorem isFinite_neg (x : Binary64) : x.neg.isFinite = x.isFinite := by
  cases x <;> rfl

/-- The rank of `2 ^ 64`. -/
def rankOfWord : Nat := 1087 <<< 52

theorem units_rankOfWord : units rankOfWord = 2 ^ 64 * unitsPerOne := by rfl

/-- A natural number of 64 bits, with a sign. -/
theorem isFinite_nearest_word {n : Nat} (negative : Bool) (h : n ≤ 2 ^ 64) :
    (nearest negative (n * unitsPerOne) 1).isFinite = true := by
  refine isFinite_nearest (n := rankOfWord) negative Nat.one_pos (by decide) ?_
  rw [units_rankOfWord, Nat.mul_one]
  exact Nat.mul_le_mul_right unitsPerOne h

/-- A finite number whose magnitude is not below one. -/
def isAtLeastOne : Binary64 → Bool
  | .nan => false
  | .signed _ rank => rank.val < topRank && unitsPerOne ≤ units rank

/-- The rank of one. -/
def rankOfOne : Nat := 1023 <<< 52

theorem units_rankOfOne : units rankOfOne = unitsPerOne := by rfl

theorem isAtLeastOne_ofRank {n : Nat} (negative : Bool) (hone : rankOfOne ≤ n) (hn : n < topRank) :
    (ofRank negative n).isAtLeastOne = true := by
  have hunits : unitsPerOne ≤ units n := units_rankOfOne ▸ units_strictMono.monotone hone
  simp [isAtLeastOne, ofRank, Nat.min_eq_left hn.le, hn, hunits]

/-- Powers of ten up to `10 ^ 308` are finite. -/
theorem isAtLeastOne_powerOfTen {n : Nat} (h : n ≤ 308) :
    (⟨false, 1, n⟩ : Number.Decimal).toBinary64.isAtLeastOne = true := by
  obtain ⟨k, hk, hlargest, -, -⟩ := exists_range
  have hupper : 1 * Nat.pow 10 n * unitsPerOne ≤ units (topRank - 1) * 1 := by
    rw [Nat.one_mul, Nat.mul_one]
    exact (Nat.mul_le_mul_right _ (Nat.pow_le_pow_right (by decide) (hk ▸ h))).trans hlargest
  have hlower : units rankOfOne * 1 ≤ 1 * Nat.pow 10 n * unitsPerOne := by
    rw [units_rankOfOne, Nat.one_mul, Nat.mul_one]
    exact Nat.le_mul_of_pos_left _ (Nat.pow_pos (by decide))
  have hread : (⟨false, 1, n⟩ : Number.Decimal).toBinary64 =
      ofRank false (nearestRank (1 * Nat.pow 10 n * unitsPerOne) 1) := by
    have hlength : Number.decimalLength 1 = 1 := by decide
    have hsmall : ¬(1 : Int) + n < -330 := by omega
    have hlarge : ¬310 < (1 : Int) + n := by omega
    have hdown : (-(n : Int)).toNat = 0 := by omega
    simp only [Number.Decimal.toBinary64, hlength, Nat.cast_one, hsmall, hlarge, hdown,
      Int.toNat_natCast, decide_false, Bool.or_false, Nat.one_ne_zero, if_false, Bool.false_eq_true]
    rfl
  rw [hread]
  exact isAtLeastOne_ofRank false (le_nearestRank Nat.one_pos hlower)
    ((nearestRank_le Nat.one_pos hupper).trans_lt (by decide))

theorem isFinite_div {x y : Binary64} (hx : x.isFinite = true) (hy : y.isAtLeastOne = true) :
    (x.div y).isFinite = true := by
  cases x with
  | nan => cases hx
  | signed s a =>
    cases y with
    | nan => cases hy
    | signed t b =>
      have ha : a.val < topRank := of_decide_eq_true hx
      rw [isAtLeastOne, Bool.and_eq_true, decide_eq_true_eq, decide_eq_true_eq] at hy
      obtain ⟨hb, hone⟩ := hy
      have hpos : 0 < units b := unitsPerOne_pos.trans_le hone
      have hzero : b.val ≠ 0 := by
        intro h
        rw [h, units_zero] at hpos
        exact absurd hpos (Nat.lt_irrefl 0)
      rw [div, if_neg ha.ne, if_neg hb.ne, if_neg hzero]
      exact isFinite_nearest _ hpos ha (Nat.mul_le_mul_left (units a) hone)

end ClassificationKey.Binary64
