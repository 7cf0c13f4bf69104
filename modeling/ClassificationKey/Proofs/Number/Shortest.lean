import ClassificationKey.Number.Shortest
import ClassificationKey.Proofs.Number.Decimal
import Mathlib.Tactic.Ring

/-!
# Shortest decimals read back

The interval that `readsBack` tests is the one that is rounded to the rank
(`nearestRank_of_readsBack`), and the search for the shortest decimal ends with one that lies in it
(`readsBack_shortest`). So the double that the decimal was found for is the one that it is read as,
with whatever zeros it is written (`Decimal.toBinary64_of_readsBack`).
-/

namespace ClassificationKey.Number

open Binary64

variable {rank n up down : Nat}

/-! ## The interval of a rank -/

/-- Twice the decimal lies between the sums of the double and each neighbour, the ends being let in
for an even rank only. -/
theorem between_of_readsBack (h : readsBack rank n up down = true) :
    (units (rank - 1) + units rank) * Nat.pow 10 down ≤ 2 * (n * Nat.pow 10 up * unitsPerOne) ∧
      2 * (n * Nat.pow 10 up * unitsPerOne) ≤ (units rank + units (rank + 1)) * Nat.pow 10 down ∧
      (rank % 2 = 0 ∨
        ((units (rank - 1) + units rank) * Nat.pow 10 down <
            2 * (n * Nat.pow 10 up * unitsPerOne) ∧
          2 * (n * Nat.pow 10 up * unitsPerOne) <
            (units rank + units (rank + 1)) * Nat.pow 10 down)) := by
  unfold readsBack at h
  simp only [Nat.mul_assoc 2] at h
  split at h <;> rw [Bool.and_eq_true, decide_eq_true_eq, decide_eq_true_eq] at h
  · next heven => exact ⟨h.1, h.2, .inl heven⟩
  · exact ⟨h.1.le, h.2.le, .inr h⟩

theorem nearestRank_of_readsBack (h : readsBack rank n up down = true) :
    nearestRank (n * Nat.pow 10 up * unitsPerOne) (Nat.pow 10 down) = rank := by
  obtain ⟨hlow, hhigh, hends⟩ := between_of_readsBack h
  exact nearestRank_of_between (Nat.pow_pos (by decide)) hlow hhigh hends

/-! ## The search -/

theorem readsBack_of_multiple? (h : multiple? rank up down = some n) :
    readsBack rank n up down = true := by
  unfold multiple? at h
  dsimp only at h
  split at h
  · next hbelow habove =>
    split at h <;> cases h
    · exact habove
    · exact hbelow
  · next hbelow _ =>
    cases h
    exact hbelow
  · next _ habove =>
    cases h
    exact habove
  · cases h

/-- A double is a multiple of `1 / 10 ^ down` where this divides the least positive double. -/
theorem exists_multiple? (hrank : 0 < rank) (hdown : unitsPerOne = 1 <<< down) :
    ∃ n, multiple? rank 0 down = some n := by
  have hpos : 0 < Nat.pow 10 down := Nat.pow_pos (by decide)
  obtain ⟨m, hm⟩ : unitsPerOne ∣ Nat.pow 10 down := by
    rw [hdown, Nat.one_shiftLeft]
    exact pow_dvd_pow_of_dvd (by decide) down
  have hbelow : units rank * Nat.pow 10 down / (unitsPerOne * Nat.pow 10 0) = units rank * m := by
    rw [hm, Nat.mul_left_comm]
    exact Nat.mul_div_mul_left _ _ unitsPerOne_pos |>.trans (Nat.div_one _)
  have hreads : readsBack rank (units rank * m) 0 down = true := by
    have htwice : 2 * (units rank * m) * Nat.pow 10 0 * unitsPerOne =
        (units rank + units rank) * Nat.pow 10 down := by
      rw [hm, Nat.pow_eq, Nat.pow_zero]
      ring
    have hlow : units (rank - 1) < units rank := units_strictMono (Nat.sub_one_lt hrank.ne')
    have hhigh : units rank < units (rank + 1) := units_strictMono (Nat.lt_succ_self rank)
    have hlow' : (units (rank - 1) + units rank) * Nat.pow 10 down <
        (units rank + units rank) * Nat.pow 10 down :=
      Nat.mul_lt_mul_of_pos_right (Nat.add_lt_add_right hlow _) hpos
    have hhigh' : (units rank + units rank) * Nat.pow 10 down <
        (units rank + units (rank + 1)) * Nat.pow 10 down :=
      Nat.mul_lt_mul_of_pos_right (Nat.add_lt_add_left hhigh _) hpos
    unfold readsBack
    simp only [htwice, decide_eq_true hlow', decide_eq_true hlow'.le, decide_eq_true hhigh',
      decide_eq_true hhigh'.le, Bool.and_self, ite_self]
  unfold multiple?
  simp only [hbelow, hreads]
  cases readsBack rank (units rank * m + 1) 0 down
  · exact ⟨_, rfl⟩
  · exact ⟨_, rfl⟩

/-- Does the decimal `n · 10 ^ e` read back as the rank? -/
def ReadsBack (rank n : Nat) (e : Int) : Prop := readsBack rank n e.toNat (-e).toNat = true

theorem readsBack_shortestFrom (hrank : 0 < rank) (k : Nat) :
    ReadsBack rank (shortestFrom rank (k + 1)).1 (shortestFrom rank (k + 1)).2 := by
  induction k with
  | zero =>
    obtain ⟨n, hn⟩ := exists_multiple? hrank (rfl : unitsPerOne = 1 <<< 1074)
    have hfirst : shortestFrom rank 1 = (n, -1074) := by
      simp [shortestFrom, hn]
    rw [hfirst]
    exact readsBack_of_multiple? hn
  | succ k ih =>
    unfold shortestFrom
    dsimp only
    split
    · next n hn => exact readsBack_of_multiple? hn
    · exact ih

theorem readsBack_shortest (hrank : 0 < rank) :
    ReadsBack rank (shortest rank).1 (shortest rank).2 := readsBack_shortestFrom hrank 1383

/-! ## Reading the decimal -/

theorem ne_zero_of_readsBack (hrank : 0 < rank) (h : readsBack rank n up down = true) : n ≠ 0 := by
  rintro rfl
  have hlow := (between_of_readsBack h).1
  have hunits : 0 < units rank := units_zero ▸ units_strictMono hrank
  have hpos : 0 < (units (rank - 1) + units rank) * Nat.pow 10 down :=
    Nat.mul_pos (by omega) (Nat.pow_pos (by decide))
  omega

theorem decimalLength_mul_pow (hn : n ≠ 0) (k : Nat) :
    decimalLength (n * 10 ^ k) = decimalLength n + k := by
  have hlength : 0 < decimalLength n := Nat.length_toDigits_pos
  refine Nat.le_antisymm ?_ ?_
  · rw [decimalLength_le_iff (Nat.add_pos_left hlength k), Nat.pow_add]
    exact Nat.mul_lt_mul_of_pos_right (lt_pow_decimalLength n) (Nat.pow_pos (by decide))
  · have hlower : 10 ^ (decimalLength n - 1 + k) < 10 ^ decimalLength (n * 10 ^ k) := by
      rw [Nat.pow_add]
      exact (Nat.mul_le_mul_right _ (pow_decimalLength_le hn)).trans_lt (lt_pow_decimalLength _)
    have hlt := (Nat.pow_lt_pow_iff_right (by decide)).mp hlower
    omega

/-- What reads back as a double other than zero is not as small as to be read as zero. -/
theorem size_ge_of_readsBack {e : Int} (hrank : 0 < rank) (h : ReadsBack rank n e) :
    -330 ≤ (decimalLength n : Int) + e := by
  by_contra hsize
  obtain ⟨k, hk, -, -, hpowers⟩ := exists_range
  have hlow := (between_of_readsBack h).1
  have hup : e.toNat = 0 := by omega
  simp only [Nat.pow_eq, hup, Nat.pow_zero, Nat.mul_one] at hlow
  have hunits : 1 ≤ units (rank - 1) + units rank := by
    have hpos : 0 < units rank := units_zero ▸ units_strictMono hrank
    omega
  have hcontra : 10 ^ (-e).toNat < 10 ^ (-e).toNat := by
    calc 10 ^ (-e).toNat ≤ (units (rank - 1) + units rank) * 10 ^ (-e).toNat :=
          Nat.le_mul_of_pos_left _ hunits
      _ ≤ n * (2 * unitsPerOne) := by rwa [Nat.mul_left_comm]
      _ < 10 ^ decimalLength n * (2 * unitsPerOne) :=
          Nat.mul_lt_mul_of_pos_right (lt_pow_decimalLength n)
            (Nat.mul_pos (by decide) unitsPerOne_pos)
      _ ≤ 10 ^ decimalLength n * 10 ^ (k + 23) := Nat.mul_le_mul_left _ hpowers
      _ ≤ 10 ^ (-e).toNat := by
          rw [← Nat.pow_add]
          exact Nat.pow_le_pow_right (by decide) (by omega)
  exact absurd hcontra (Nat.lt_irrefl _)

/-- What reads back as a finite double is not as large as to be read as infinity. -/
theorem size_le_of_readsBack {e : Int} (hn : n ≠ 0) (htop : rank < topRank)
    (h : ReadsBack rank n e) : (decimalLength n : Int) + e ≤ 310 := by
  by_contra hsize
  obtain ⟨k, hk, -, hpowers, -⟩ := exists_range
  have hhigh := (between_of_readsBack h).2.1
  simp only [Nat.pow_eq] at hhigh
  have hunits : units rank + units (rank + 1) ≤ 2 * units topRank := by
    have hrank := units_strictMono.monotone htop.le
    have hnext : units (rank + 1) ≤ units topRank := units_strictMono.monotone htop
    omega
  have hcontra : 10 ^ e.toNat * n * (2 * unitsPerOne) < 10 ^ e.toNat * n * (2 * unitsPerOne) := by
    calc 10 ^ e.toNat * n * (2 * unitsPerOne) = 2 * (n * 10 ^ e.toNat * unitsPerOne) := by ring
      _ ≤ (units rank + units (rank + 1)) * 10 ^ (-e).toNat := hhigh
      _ ≤ 2 * units topRank * 10 ^ (-e).toNat := Nat.mul_le_mul_right _ hunits
      _ < 2 * (10 ^ (k + 2) * unitsPerOne) * 10 ^ (-e).toNat :=
          Nat.mul_lt_mul_of_pos_right (by omega) (Nat.pow_pos (by decide))
      _ = 10 ^ (k + 2 + (-e).toNat) * (2 * unitsPerOne) := by
          rw [Nat.pow_add 10 (k + 2)]
          ring
      _ ≤ 10 ^ (e.toNat + (decimalLength n - 1)) * (2 * unitsPerOne) :=
          Nat.mul_le_mul_right _ (Nat.pow_le_pow_right (by decide) (by omega))
      _ ≤ 10 ^ e.toNat * n * (2 * unitsPerOne) := by
          rw [Nat.pow_add]
          exact Nat.mul_le_mul_right _ (Nat.mul_le_mul_left _ (pow_decimalLength_le hn))
  exact absurd hcontra (Nat.lt_irrefl _)

/-- A decimal that reads back as a rank is read as it, with `k` zeros after it too. -/
theorem Decimal.toBinary64_of_readsBack {e : Int} (hrank : 0 < rank) (htop : rank < topRank)
    (h : ReadsBack rank n e) (negative : Bool) (k : Nat) :
    (⟨negative, n * 10 ^ k, e - k⟩ : Decimal).toBinary64 = .ofRank negative rank := by
  have hn := ne_zero_of_readsBack hrank h
  have hzeros : n * 10 ^ k ≠ 0 := Nat.mul_ne_zero hn (Nat.pow_pos (by decide)).ne'
  have hlow := size_ge_of_readsBack hrank h
  have hhigh := size_le_of_readsBack hn htop h
  have hsize : (decimalLength (n * 10 ^ k) : Int) + (e - k) = decimalLength n + e := by
    rw [decimalLength_mul_pow hn]
    omega
  have hfraction : nearestRank (n * 10 ^ k * Nat.pow 10 (e - k).toNat * unitsPerOne)
      (Nat.pow 10 (-(e - k)).toNat) = rank := by
    rw [← nearestRank_of_readsBack h]
    refine nearestRank_congr (Nat.pow_pos (by decide)) (Nat.pow_pos (by decide)) ?_
    simp only [Nat.pow_eq]
    have hpowers : 10 ^ k * 10 ^ (e - k).toNat * 10 ^ (-e).toNat =
        10 ^ e.toNat * 10 ^ (-(e - k)).toNat := by
      rw [← Nat.pow_add, ← Nat.pow_add, ← Nat.pow_add]
      congr 1
      omega
    calc n * 10 ^ k * 10 ^ (e - k).toNat * unitsPerOne * 10 ^ (-e).toNat
        = n * unitsPerOne * (10 ^ k * 10 ^ (e - k).toNat * 10 ^ (-e).toNat) := by ring
      _ = n * 10 ^ e.toNat * unitsPerOne * 10 ^ (-(e - k)).toNat := by
          rw [hpowers]
          ring
  unfold toBinary64
  dsimp only
  rw [hsize, if_neg (by simp [hzeros]; omega), if_neg (by omega), nearest, hfraction]

end ClassificationKey.Number
