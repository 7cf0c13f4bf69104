import ClassificationKey.Number.Rounding
import Mathlib.Algebra.Order.Group.Unbundled.Int
import Mathlib.Order.Monotone.Basic
import Mathlib.Tactic.Ring

/-!
# Rounding to the nearest double

A rank is written `(e <<< 52) + k` with a significand `k` of at most 53 bits, and its magnitude is
then `k` units times `2 ^ e` (`units_shift`). So magnitudes grow with the ranks (`units_strictMono`),
and the rank of a quotient is nearest to it among all ranks (`nearestRank_nearest`), an even one where
two are as near (`nearestRank_even_of_tie`). A quotient that is a magnitude is not rounded at all
(`nearestRank_of_eq`), and the quotients that are rounded to a rank reach half way to its neighbours
(`nearestRank_of_between`).
-/

namespace ClassificationKey.Binary64

/-! ## Magnitudes -/

/-- A significand of 53 bits, the first of them set unless the exponent is zero. The upper end is
let in, where it is the first significand of the next exponent. -/
structure IsSignificand (k e : Nat) : Prop where
  le : k ≤ 1 <<< 53
  normal : e = 0 ∨ 1 <<< 52 ≤ k

theorem units_shift {k e : Nat} (h : IsSignificand k e) : units ((e <<< 52) + k) = k <<< e := by
  obtain ⟨hle, hnormal⟩ := h
  unfold units
  by_cases hsmall : (e <<< 52) + k < 1 <<< 53
  · have he : e = 0 := by omega
    subst he
    rw [if_pos hsmall, Nat.shiftLeft_zero]
    omega
  · rw [if_neg hsmall]
    rcases Nat.lt_or_eq_of_le hle with hlt | heq
    · have hexp : ((e <<< 52) + k) >>> 52 - 1 = e := by omega
      rw [hexp, Nat.add_sub_cancel_left]
    · have hexp : ((e <<< 52) + k) >>> 52 - 1 = e + 1 := by omega
      have hsig : (e <<< 52) + k - ((e + 1) <<< 52) = 1 <<< 52 := by omega
      rw [hexp, hsig, heq, Nat.shiftLeft_succ, Nat.shiftLeft_eq, Nat.shiftLeft_eq]
      omega

theorem exists_significand (n : Nat) :
    ∃ k e, IsSignificand k e ∧ k < 1 <<< 53 ∧ n = (e <<< 52) + k := by
  by_cases hsmall : n < 1 <<< 53
  · exact ⟨n, 0, ⟨by omega, .inl rfl⟩, hsmall, by omega⟩
  · exact ⟨n - ((n >>> 52 - 1) <<< 52), n >>> 52 - 1, ⟨by omega, .inr (by omega)⟩, by omega,
      by omega⟩

theorem units_strictMono : StrictMono units := by
  refine strictMono_nat_of_lt_succ fun n => ?_
  obtain ⟨k, e, hk, hlt, rfl⟩ := exists_significand n
  have hnext : IsSignificand (k + 1) e := ⟨hlt, hk.normal.imp_right Nat.le_succ_of_le⟩
  rw [units_shift hk, Nat.add_assoc, units_shift hnext, Nat.shiftLeft_eq, Nat.shiftLeft_eq]
  exact Nat.mul_lt_mul_of_pos_right (Nat.lt_succ_self k) (Nat.two_pow_pos e)

@[simp] theorem units_zero : units 0 = 0 := rfl

/-! ## Quotients -/

theorem divNearest_cases (num den : Nat) :
    (divNearest num den = num / den ∧ 2 * (num % den) ≤ den) ∨
      (divNearest num den = num / den + 1 ∧ den ≤ 2 * (num % den)) := by
  unfold divNearest
  dsimp only
  split
  · exact .inl ⟨rfl, by omega⟩
  · split
    · exact .inr ⟨rfl, by omega⟩
    · rcases Nat.mod_two_eq_zero_or_one (num / den) with h | h <;> rw [h]
      · exact .inl ⟨rfl, by omega⟩
      · exact .inr ⟨rfl, by omega⟩

/-- No multiple of the denominator is nearer to the numerator. -/
theorem divNearest_nearest (num : Nat) {den : Nat} (hden : 0 < den) (j : Nat) :
    |(divNearest num den * den : ℤ) - num| ≤ |(j * den : ℤ) - num| := by
  have hdiv : num / den * den + num % den = num := by
    rw [Nat.mul_comm]
    exact Nat.div_add_mod num den
  have hmod := Nat.mod_lt num hden
  have hside : j * den ≤ num / den * den ∨ num / den * den + den ≤ j * den := by
    rcases Nat.lt_or_ge (num / den) j with h | h
    · exact .inr (Nat.succ_mul (num / den) den ▸ Nat.mul_le_mul_right den h)
    · exact .inl (Nat.mul_le_mul_right den h)
  simp only [Int.abs_eq_natAbs, ← Nat.cast_mul]
  rcases divNearest_cases num den with ⟨hq, hr⟩ | ⟨hq, hr⟩ <;> rw [hq]
  · omega
  · rw [Nat.succ_mul]
    omega

/-- Where another multiple is as near, the quotient lies half way, and the even one is taken. -/
theorem divNearest_even_of_tie {num den j : Nat} (hden : 0 < den) (hj : j ≠ divNearest num den)
    (h : |(divNearest num den * den : ℤ) - num| = |(j * den : ℤ) - num|) :
    divNearest num den % 2 = 0 := by
  have hdiv : num / den * den + num % den = num := by
    rw [Nat.mul_comm]
    exact Nat.div_add_mod num den
  have hmod := Nat.mod_lt num hden
  have hnext : (num / den + 1) * den = num / den * den + den := Nat.succ_mul _ _
  have hside : j * den + den ≤ num / den * den ∨ j = num / den ∨ j = num / den + 1 ∨
      num / den * den + 2 * den ≤ j * den := by
    rcases Nat.lt_or_ge j (num / den) with hlow | hlow
    · exact .inl (Nat.succ_mul j den ▸ Nat.mul_le_mul_right den hlow)
    · rcases Nat.lt_or_ge (num / den + 1) j with hhigh | hhigh
      · have hfar := Nat.mul_le_mul_right den hhigh
        rw [Nat.succ_mul, hnext] at hfar
        exact .inr (.inr (.inr (by omega)))
      · omega
  simp only [Int.abs_eq_natAbs, ← Nat.cast_mul] at h
  unfold divNearest at hj h ⊢
  dsimp only at hj h ⊢
  split at hj
  · next hlt =>
    rw [if_pos hlt] at h
    rcases hside with hside | rfl | rfl | hside <;> omega
  · next hge =>
    rw [if_neg hge] at h ⊢
    split at hj
    · next hgt =>
      rw [if_pos hgt] at h
      rcases hside with hside | rfl | rfl | hside <;> omega
    · next hle =>
      rw [if_neg hle]
      omega

theorem divNearest_mul_right (num den : Nat) {m : Nat} (hm : 0 < m) :
    divNearest (num * m) (den * m) = divNearest num den := by
  have htwice : 2 * (num % den * m) = 2 * (num % den) * m := (Nat.mul_assoc _ _ _).symm
  simp only [divNearest, Nat.mul_div_mul_right _ _ hm, Nat.mul_mod_mul_right, htwice,
    Nat.mul_lt_mul_right hm]

/-! ## Ranks -/

/-- The exponent of the least binade that holds a quotient. -/
def scaleOf (num den : Nat) : Nat := (num / den).log2 - 52

/-- The step of that binade, times the denominator. -/
def stepOf (num den : Nat) : Nat := den <<< scaleOf num den

theorem stepOf_pos (num : Nat) {den : Nat} (hden : 0 < den) : 0 < stepOf num den := by
  rw [stepOf, Nat.shiftLeft_eq]
  exact Nat.mul_pos hden (Nat.two_pow_pos _)

theorem scaleOf_spec (num den : Nat) :
    num / stepOf num den < 1 <<< 53 ∧
      (scaleOf num den = 0 ∨ 1 <<< 52 ≤ num / stepOf num den) := by
  rw [stepOf, Nat.shiftLeft_eq den, ← Nat.div_div_eq_div_mul]
  unfold scaleOf
  generalize num / den = q
  have hupper : q < 2 ^ (q.log2 + 1) := Nat.lt_log2_self
  rcases Nat.lt_or_ge 52 q.log2 with hlog | hlog
  · have hq : q ≠ 0 := by
      rintro rfl
      simp at hlog
    have hlower : 2 ^ q.log2 ≤ q := Nat.log2_self_le hq
    have hsplit : q.log2 = q.log2 - 52 + 52 := by omega
    refine ⟨?_, .inr ?_⟩
    · rw [Nat.div_lt_iff_lt_mul (Nat.two_pow_pos _), Nat.one_shiftLeft, ← Nat.pow_add]
      exact hupper.trans_eq (congrArg (2 ^ ·) (by omega))
    · rw [Nat.le_div_iff_mul_le (Nat.two_pow_pos _), Nat.one_shiftLeft, ← Nat.pow_add]
      exact (congrArg (2 ^ ·) (by omega)).trans_le hlower
  · have hscale : q.log2 - 52 = 0 := by omega
    refine ⟨?_, .inl hscale⟩
    rw [hscale, Nat.pow_zero, Nat.div_one, Nat.one_shiftLeft]
    exact hupper.trans_le (Nat.pow_le_pow_right (by decide) (by omega))

theorem isSignificand_divNearest (num den : Nat) :
    IsSignificand (divNearest num (stepOf num den)) (scaleOf num den) := by
  obtain ⟨hlt, hnormal⟩ := scaleOf_spec num den
  rcases divNearest_cases num (stepOf num den) with ⟨hq, -⟩ | ⟨hq, -⟩ <;> rw [hq]
  · exact ⟨hlt.le, hnormal⟩
  · exact ⟨hlt, hnormal.imp_right Nat.le_succ_of_le⟩

theorem nearestRank_eq (num den : Nat) :
    nearestRank num den = (scaleOf num den <<< 52) + divNearest num (stepOf num den) := rfl

/-- The magnitude of the nearest rank is a multiple of the step. -/
theorem units_nearestRank_mul (num den : Nat) :
    units (nearestRank num den) * den = divNearest num (stepOf num den) * stepOf num den := by
  rw [nearestRank_eq, units_shift (isSignificand_divNearest num den), stepOf, Nat.shiftLeft_eq,
    Nat.shiftLeft_eq]
  ring

/-- A magnitude lies below the binade of a quotient, whose first magnitude stands between the two, or
it is a multiple of the same step. -/
theorem units_mul_cases (num : Nat) {den : Nat} (hden : 0 < den) (n : Nat) :
    (units n * den < 1 <<< 52 * stepOf num den ∧ 1 <<< 52 * stepOf num den ≤ num) ∨
      ∃ j, units n * den = j * stepOf num den := by
  obtain ⟨k, e, hk, hlt, rfl⟩ := exists_significand n
  rw [units_shift hk]
  rcases Nat.lt_or_ge e (scaleOf num den) with hlow | hhigh
  · refine .inl ⟨?_, ?_⟩
    · have hshift : k <<< e < 1 <<< 52 * 2 ^ scaleOf num den := by
        rw [Nat.shiftLeft_eq]
        calc k * 2 ^ e < 1 <<< 53 * 2 ^ e := Nat.mul_lt_mul_of_pos_right hlt (Nat.two_pow_pos e)
          _ = 1 <<< 52 * 2 ^ (e + 1) := by rw [Nat.pow_succ]; omega
          _ ≤ 1 <<< 52 * 2 ^ scaleOf num den :=
            Nat.mul_le_mul_left _ (Nat.pow_le_pow_right (by decide) hlow)
      calc k <<< e * den < 1 <<< 52 * 2 ^ scaleOf num den * den :=
            Nat.mul_lt_mul_of_pos_right hshift hden
        _ = 1 <<< 52 * stepOf num den := by rw [stepOf, Nat.shiftLeft_eq den]; ring
    · have hnormal := (scaleOf_spec num den).2.resolve_left (by omega)
      exact (Nat.le_div_iff_mul_le (stepOf_pos num hden)).mp hnormal
  · refine .inr ⟨k <<< (e - scaleOf num den), ?_⟩
    rw [stepOf, Nat.shiftLeft_eq, Nat.shiftLeft_eq, Nat.shiftLeft_eq]
    calc k * 2 ^ e * den = k * 2 ^ (e - scaleOf num den + scaleOf num den) * den := by
          rw [Nat.sub_add_cancel hhigh]
      _ = k * 2 ^ (e - scaleOf num den) * (den * 2 ^ scaleOf num den) := by rw [pow_add]; ring

/-- No rank is nearer to a quotient than the one it is rounded to. -/
theorem nearestRank_nearest (num : Nat) {den : Nat} (hden : 0 < den) (n : Nat) :
    |(units (nearestRank num den) * den : ℤ) - num| ≤ |(units n * den : ℤ) - num| := by
  have hrank : (units (nearestRank num den) * den : ℤ) =
      divNearest num (stepOf num den) * (stepOf num den : ℕ) :=
    mod_cast units_nearestRank_mul num den
  rw [hrank]
  rcases units_mul_cases num hden n with ⟨hbelow, hfirst⟩ | ⟨j, hj⟩
  · refine (divNearest_nearest num (stepOf_pos num hden) (1 <<< 52)).trans ?_
    simp only [Int.abs_eq_natAbs, ← Nat.cast_mul]
    omega
  · have hmultiple : (units n * den : ℤ) = j * (stepOf num den : ℕ) := mod_cast hj
    rw [hmultiple]
    exact divNearest_nearest num (stepOf_pos num hden) j

/-- Where another rank is as near, the one that a quotient is rounded to is even. -/
theorem nearestRank_even_of_tie {num den n : Nat} (hden : 0 < den) (hn : n ≠ nearestRank num den)
    (h : |(units (nearestRank num den) * den : ℤ) - num| = |(units n * den : ℤ) - num|) :
    nearestRank num den % 2 = 0 := by
  have hrank := units_nearestRank_mul num den
  have hdivide : divNearest num (stepOf num den) % 2 = 0 := by
    rcases units_mul_cases num hden n with ⟨hbelow, hfirst⟩ | ⟨j, hj⟩
    · -- the first magnitude of the binade would be nearer
      have hfirst' := divNearest_nearest num (stepOf_pos num hden) (1 <<< 52)
      rw [← Nat.cast_mul, hrank] at h
      simp only [Int.abs_eq_natAbs, ← Nat.cast_mul] at h hfirst'
      omega
    · refine divNearest_even_of_tie (stepOf_pos num hden) (j := j) ?_ ?_
      · rintro rfl
        refine hn (units_strictMono.injective (Nat.eq_of_mul_eq_mul_right hden ?_))
        rw [hj, hrank]
      · rw [← Nat.cast_mul, ← Nat.cast_mul, ← hj, ← hrank, Nat.cast_mul, Nat.cast_mul]
        exact h
  rw [nearestRank_eq]
  omega

/-- A quotient is not rounded beyond a magnitude that bounds it. -/
theorem nearestRank_le {num den n : Nat} (hden : 0 < den) (h : num ≤ units n * den) :
    nearestRank num den ≤ n := by
  by_contra hlt
  have hunits : units n * den < units (nearestRank num den) * den :=
    Nat.mul_lt_mul_of_pos_right (units_strictMono (Nat.lt_of_not_le hlt)) hden
  have hnearest := nearestRank_nearest num hden n
  simp only [Int.abs_eq_natAbs, ← Nat.cast_mul] at hnearest
  omega

theorem le_nearestRank {num den n : Nat} (hden : 0 < den) (h : units n * den ≤ num) :
    n ≤ nearestRank num den := by
  by_contra hlt
  have hunits : units (nearestRank num den) * den < units n * den :=
    Nat.mul_lt_mul_of_pos_right (units_strictMono (Nat.lt_of_not_le hlt)) hden
  have hnearest := nearestRank_nearest num hden n
  simp only [Int.abs_eq_natAbs, ← Nat.cast_mul] at hnearest
  omega

/-- A quotient that is a magnitude is its own rounding. -/
theorem nearestRank_of_eq {num den n : Nat} (hden : 0 < den) (h : units n * den = num) :
    nearestRank num den = n := by
  have hzero : (units n * den : ℤ) - num = 0 := by
    rw [← h]
    push_cast
    ring
  have hnearest := nearestRank_nearest num hden n
  rw [hzero, abs_zero, abs_nonpos_iff, sub_eq_zero] at hnearest
  refine units_strictMono.injective (Nat.eq_of_mul_eq_mul_right hden ?_)
  rw [h]
  exact_mod_cast hnearest

/-- What lies no further than half way to either neighbour is rounded to the rank, where half way is
let in for an even rank only. -/
theorem nearestRank_of_between {num den n : Nat} (hden : 0 < den)
    (hlow : (units (n - 1) + units n) * den ≤ 2 * num)
    (hhigh : 2 * num ≤ (units n + units (n + 1)) * den)
    (hends : n % 2 = 0 ∨ ((units (n - 1) + units n) * den < 2 * num ∧
      2 * num < (units n + units (n + 1)) * den)) : nearestRank num den = n := by
  by_contra hne
  have hnearest := nearestRank_nearest num hden n
  have htie := nearestRank_even_of_tie hden (Ne.symm hne)
  simp only [Int.abs_eq_natAbs, ← Nat.cast_mul] at hnearest htie
  rw [Nat.add_mul] at hlow hhigh hends
  rw [Nat.add_mul] at hends
  generalize nearestRank num den = r at hne hnearest htie
  rcases Nat.lt_or_gt_of_ne hne with hlt | hgt
  · -- below the rank the nearest one is its predecessor, and only in a tie
    have hbelow : units r * den ≤ units (n - 1) * den :=
      Nat.mul_le_mul_right den (units_strictMono.monotone (Nat.le_sub_one_of_lt hlt))
    have hunits : units (n - 1) * den < units n * den :=
      Nat.mul_lt_mul_of_pos_right (units_strictMono (Nat.sub_one_lt_of_lt hlt)) hden
    have hr : r = n - 1 := by
      refine units_strictMono.injective (Nat.eq_of_mul_eq_mul_right hden ?_)
      omega
    omega
  · have habove : units (n + 1) * den ≤ units r * den :=
      Nat.mul_le_mul_right den (units_strictMono.monotone hgt)
    have hunits : units n * den < units (n + 1) * den :=
      Nat.mul_lt_mul_of_pos_right (units_strictMono (Nat.lt_succ_self n)) hden
    have hr : r = n + 1 := by
      refine units_strictMono.injective (Nat.eq_of_mul_eq_mul_right hden ?_)
      omega
    omega

/-- Equal fractions are rounded alike. -/
theorem nearestRank_congr {num den num' den' : Nat} (hden : 0 < den) (hden' : 0 < den')
    (h : num * den' = num' * den) : nearestRank num den = nearestRank num' den' := by
  have hscale : ∀ {a b m : Nat}, 0 < m → nearestRank (a * m) (b * m) = nearestRank a b := by
    intro a b m hm
    have hshift : ∀ s, (b * m) <<< s = b <<< s * m := by
      intro s
      rw [Nat.shiftLeft_eq, Nat.shiftLeft_eq, Nat.mul_right_comm]
    simp only [nearestRank, Nat.mul_div_mul_right _ _ hm, hshift, divNearest_mul_right _ _ hm]
  rw [← hscale hden', h, Nat.mul_comm den, hscale hden]

end ClassificationKey.Binary64
