import ClassificationKey.Proofs.Number.Decimal
import ClassificationKey.Proofs.Value
import ClassificationKey.RuleSet.Table

/-!
# The integer form of a value

A value denotes a rational (`Value.denotes?`), and stands for one (`Value.number?`): the two differ
only for a text that is read as a double, which stands for the double nearest to what it denotes. The
integer form of a value is the integer that it stands for (`Value.toInteger?_of_number?`), and it has
none otherwise, but for one double: `2 ^ 63`, next above the integers of 64 bits, is taken for the
greatest of them (`Value.wholeNumber?_eq_some_iff`).
-/

namespace ClassificationKey

open Binary64 Number Text

namespace Value

/-! ## Doubles -/

/-- The least integer above the range of 64 bits, which is a double. -/
def limit : ℤ := 9223372036854775808

theorem toRat?_ofInt_maxValue : (ofInt Int64.maxValue.toInt).toRat? = some (limit : ℚ) :=
  toRat?_ofInt_bounds.2

/-- The integer in the range of 64 bits that is nearest. -/
def clamp (j : ℤ) : Int64 :=
  Int64.ofInt (max Int64.minValue.toInt (min j Int64.maxValue.toInt))

theorem clamp_of_le {j : ℤ} (h : j < Int64.minValue.toInt) : clamp j = Int64.minValue := by
  have hmin : Int64.minValue.toInt ≤ Int64.maxValue.toInt := by decide
  rw [clamp, min_eq_left (h.le.trans hmin), max_eq_left h.le, Int64.ofInt_toInt]

theorem clamp_of_ge {j : ℤ} (h : Int64.maxValue.toInt < j) : clamp j = Int64.maxValue := by
  have hmin : Int64.minValue.toInt ≤ Int64.maxValue.toInt := by decide
  rw [clamp, min_eq_right h.le, max_eq_right hmin, Int64.ofInt_toInt]

theorem toInt_clamp {j : ℤ} (hlow : Int64.minValue.toInt ≤ j) (hhigh : j ≤ Int64.maxValue.toInt) :
    (clamp j).toInt = j := by
  rw [clamp, min_eq_left hhigh, max_eq_right hlow]
  refine Int64.toInt_ofInt_of_le hlow (hhigh.trans_lt ?_)
  decide

theorem clamp_toInt (i : Int64) : clamp i.toInt = i := by
  rw [clamp, min_eq_left i.toInt_le, max_eq_right i.minValue_le_toInt, Int64.ofInt_toInt]

theorem wholeNumber?_eq_some_iff {x : Binary64} {i : Int64} :
    wholeNumber? x = some i ↔
      x.toRat? = some (i.toInt : ℚ) ∨ (x.toRat? = some (limit : ℚ) ∧ i = Int64.maxValue) := by
  have hread : wholeNumber? x = some i ↔
      ∃ j : ℤ, x.toRat? = some (j : ℚ) ∧ (ofInt (clamp j).toInt).toRat? = some (j : ℚ) ∧
        clamp j = i := by
    rw [wholeNumber?, Option.bind_eq_some_iff]
    refine exists_congr fun j => ?_
    rw [whole?_eq_some_iff]
    refine and_congr_right fun hj => ?_
    rw [Option.ite_none_right_eq_some, eq_iff_toRat? hj, Option.some.injEq]
    rfl
  rw [hread]
  constructor
  · rintro ⟨j, hj, hround, rfl⟩
    rcases lt_or_ge j Int64.minValue.toInt with hlow | hlow
    · rw [clamp_of_le hlow, toRat?_ofInt_bounds.1, Option.some.injEq, Int.cast_inj] at hround
      exact absurd hround hlow.ne'
    · rcases lt_or_ge Int64.maxValue.toInt j with hhigh | hhigh
      · rw [clamp_of_ge hhigh, toRat?_ofInt_maxValue] at hround
        rw [clamp_of_ge hhigh]
        exact .inr ⟨hj.trans hround.symm, rfl⟩
      · refine .inl ?_
        rw [toInt_clamp hlow hhigh]
        exact hj
  · rintro (hi | ⟨hlimit, rfl⟩)
    · refine ⟨i.toInt, hi, ?_, clamp_toInt i⟩
      rw [clamp_toInt]
      exact toRat?_ofInt hi
    · have hclamp : clamp limit = Int64.maxValue := clamp_of_ge (by decide)
      refine ⟨limit, hlimit, ?_, hclamp⟩
      rw [hclamp]
      exact toRat?_ofInt_maxValue

/-! ## Values -/

/-- The rational that a value denotes. -/
def denotes? : Value → Option ℚ
  | .integer i => some i.toInt
  | .float x => x.toRat?
  | .truth _ => none
  | .text s => numeralValue? (trimChars s.toList)

/-- The rational that a value stands for. A text that writes no integer of 64 bits is read as a
double. -/
def number? : Value → Option ℚ
  | .text s =>
    match readInteger? (trimChars s.toList) with
    | some i => some i.toInt
    | none => (readBinary64? (trimChars s.toList)).bind toRat?
  | v => v.denotes?

theorem number?_text_trim (s : String) :
    (Value.text (trim s)).number? = (Value.text s).number? := by
  simp only [number?, toList_trim, trimChars_trimChars]

/-- What a value stands for is what it denotes, unless this is a text's and is rounded. -/
theorem denotes?_of_number? {v : Value} {q : ℚ} (h : v.number? = some q) :
    v.denotes? = some q ∨
      ∃ s r, v = .text s ∧ readInteger? (trimChars s.toList) = none ∧ v.denotes? = some r ∧
        IsNearest r q := by
  cases v with
  | integer i => exact .inl h
  | float x => exact .inl h
  | truth b => cases h
  | text s =>
    rw [number?] at h
    cases hread : readInteger? (trimChars s.toList) with
    | some i =>
      rw [hread] at h
      exact .inl (h ▸ numeralValue?_of_readInteger? hread)
    | none =>
      rw [hread] at h
      obtain ⟨x, hx, hq⟩ := Option.bind_eq_some_iff.mp h
      obtain ⟨r, hr, hnearest⟩ := isNearest_of_readBinary64? hx hq
      exact .inr ⟨s, r, rfl, hread, hr, hnearest⟩

/-- The integer form is the integer that a value stands for, the limit being taken for the greatest
integer of 64 bits. -/
theorem toInteger?_eq_some_iff {v : Value} {i : Int64} :
    v.toInteger? = some i ↔
      v.number? = some (i.toInt : ℚ) ∨ (v.number? = some (limit : ℚ) ∧ i = Int64.maxValue) := by
  have hinteger : ∀ j : Int64, some j = some i ↔ some (j.toInt : ℚ) = some (i.toInt : ℚ) ∨
      (some (j.toInt : ℚ) = some (limit : ℚ) ∧ i = Int64.maxValue) := by
    intro j
    have hlimit : j.toInt ≠ limit := fun h => absurd (h ▸ j.toInt_lt) (by decide)
    rw [Option.some.injEq, Option.some.injEq, Option.some.injEq, Int.cast_inj, Int.cast_inj,
      Int64.toInt_inj]
    exact ⟨.inl, fun h => h.resolve_right fun hmax => hlimit hmax.1⟩
  cases v with
  | integer j => exact hinteger j
  | float x => exact wholeNumber?_eq_some_iff
  | truth b => simp [toInteger?, number?, denotes?]
  | text s =>
    rw [toInteger?, number?]
    cases hread : readInteger? (trimChars s.toList) with
    | some j => exact hinteger j
    | none =>
      cases readBinary64? (trimChars s.toList) with
      | none => simp
      | some x => exact wholeNumber?_eq_some_iff

theorem toInteger?_of_number? {v : Value} {i : Int64} (h : v.number? = some (i.toInt : ℚ)) :
    v.toInteger? = some i := toInteger?_eq_some_iff.mpr (.inl h)

theorem number?_of_toInteger? {v : Value} {i : Int64} (h : v.toInteger? = some i)
    (hlimit : v.number? ≠ some (limit : ℚ)) : v.number? = some (i.toInt : ℚ) :=
  (toInteger?_eq_some_iff.mp h).resolve_right fun hmax => hlimit hmax.1

end Value

/-! ## Cells that are taken for one id -/

theorem CoupletId.ofValue?_eq_some_number_iff {v : Value} {i : Int64} :
    CoupletId.ofValue? v = some (.number i) ↔ v.toInteger? = some i := by
  unfold CoupletId.ofValue?
  split
  · next j hj => simp [hj]
  · next s hnone => simp [hnone]
  · next hnone => simp [hnone]

theorem CoupletId.number?_eq_of_ofValue? {v w : Value} {id : CoupletId}
    (hv : CoupletId.ofValue? v = some id) (hw : CoupletId.ofValue? w = some id)
    (hvlimit : v.number? ≠ some (Value.limit : ℚ)) (hwlimit : w.number? ≠ some (Value.limit : ℚ)) :
    v.number? = w.number? := by
  cases id with
  | number i =>
    have hvi := Value.number?_of_toInteger? (ofValue?_eq_some_number_iff.mp hv) hvlimit
    have hwi := Value.number?_of_toInteger? (ofValue?_eq_some_number_iff.mp hw) hwlimit
    exact hvi.trans hwi.symm
  | text t =>
    obtain ⟨s, rfl, -, -, rfl⟩ := ofValue?_eq_some_text_iff.mp hv
    obtain ⟨s', rfl, -, -, hs⟩ := ofValue?_eq_some_text_iff.mp hw
    rw [← Value.number?_text_trim s, ← hs, Value.number?_text_trim s']

theorem ruleIdOf_eq_ok_iff {v : Value} {id : RuleId} :
    ruleIdOf v = .ok id ↔ ∃ i, v.toInteger? = some i ∧ 0 < i.toInt ∧ i.toInt = id.toNat := by
  unfold ruleIdOf
  cases v.toInteger? with
  | none => simp
  | some i =>
    simp only [Option.some.injEq, exists_eq_left', Bool.and_eq_true, decide_eq_true_eq]
    have hsize : (UInt32.size : ℤ) = 4294967296 := rfl
    have hlt := id.toNat_lt
    split
    · next hi =>
      rw [Except.ok.injEq]
      constructor
      · rintro rfl
        refine ⟨hi.1, ?_⟩
        rw [UInt32.toNat_ofNat_of_lt' (by omega)]
        omega
      · rintro ⟨-, hid⟩
        rw [hid, Int.toNat_natCast, UInt32.ofNat_toNat]
    · next hi =>
      constructor
      · intro h
        cases h
      · rintro ⟨hpos, hid⟩
        exact absurd ⟨hpos, by omega⟩ hi

/-- A rule id is far from the limit. -/
theorem number?_of_ruleIdOf {v : Value} {id : RuleId} (h : ruleIdOf v = .ok id) :
    v.number? = some (id.toNat : ℚ) := by
  obtain ⟨i, hi, -, hid⟩ := ruleIdOf_eq_ok_iff.mp h
  rcases Value.toInteger?_eq_some_iff.mp hi with hnumber | ⟨-, rfl⟩
  · rw [hnumber, hid, Int.cast_natCast]
  · have hlt := id.toNat_lt
    rw [← Int.ofNat_lt, ← hid] at hlt
    exact absurd hlt (by decide)

namespace Value

/-- The integer form is exact up to the reading of texts as doubles. A value with the integer form
`i` denotes `i`, unless it is a text which is rounded to `i`; a double that is an integer of 64 bits
has it for its integer form; and cells that are taken for one couplet id, or for one rule id, stand
for the same number. The limit is left out where an integer form may be that of the limit. -/
theorem toInteger?_spec :
    (∀ (v : Value) (i : Int64), v.toInteger? = some i → v.number? ≠ some (limit : ℚ) →
      v.denotes? = some (i.toInt : ℚ) ∨
        ∃ s r, v = .text s ∧ readInteger? (trimChars s.toList) = none ∧ v.denotes? = some r ∧
          IsNearest r i.toInt) ∧
      (∀ (x : Binary64) (i : Int64), x.toRat? = some (i.toInt : ℚ) →
        (Value.float x).toInteger? = some i) ∧
      (∀ (v w : Value) (id : CoupletId), CoupletId.ofValue? v = some id →
        CoupletId.ofValue? w = some id → v.number? ≠ some (limit : ℚ) →
        w.number? ≠ some (limit : ℚ) → v.number? = w.number?) ∧
      ∀ (v w : Value) (id : RuleId), ruleIdOf v = .ok id → ruleIdOf w = .ok id →
        v.number? = w.number? := by
  refine ⟨?_, ?_, ?_, ?_⟩
  · intro v i hi hlimit
    exact denotes?_of_number? (number?_of_toInteger? hi hlimit)
  · intro x i hx
    exact toInteger?_of_number? hx
  · intro v w id hv hw hvlimit hwlimit
    exact CoupletId.number?_eq_of_ofValue? hv hw hvlimit hwlimit
  · intro v w id hv hw
    rw [number?_of_ruleIdOf hv, number?_of_ruleIdOf hw]

theorem toInteger?_spellings :
    ((Value.text " 34.0 ").toInteger? = some 34 ∧
      ((Value.text " 34.0 ").denotes? = some ((34 : Int64).toInt : ℚ) ∨
        ∃ s r, Value.text " 34.0 " = .text s ∧ readInteger? (trimChars s.toList) = none ∧
          (Value.text " 34.0 ").denotes? = some r ∧ IsNearest r (34 : Int64).toInt)) ∧
      (Value.float (.ofInt 34)).toInteger? = some 34 ∧
      (CoupletId.ofValue? (.text " 34.0 ") = CoupletId.ofValue? (.float (.ofInt 34)) ∧
        (Value.text " 34.0 ").number? = (Value.float (.ofInt 34)).number?) ∧
      ruleIdOf (.text "34") = ruleIdOf (.text "3.4e1") ∧
        (Value.text "34").number? = (Value.text "3.4e1").number? := by
  obtain ⟨hdenotes, hfloat, hcouplet, hrule⟩ := toInteger?_spec
  have hform : (Value.text " 34.0 ").toInteger? = some 34 := by decide +kernel
  have hlimit : (Value.text " 34.0 ").number? ≠ some (limit : ℚ) := by decide +kernel
  have hlimit' : (Value.float (.ofInt 34)).number? ≠ some (limit : ℚ) := by decide +kernel
  have hrat : (ofInt 34).toRat? = some ((34 : Int64).toInt : ℚ) := by decide +kernel
  have hid : CoupletId.ofValue? (.text " 34.0 ") = some (.number 34) := by decide +kernel
  have hid' : CoupletId.ofValue? (.float (.ofInt 34)) = some (.number 34) := by decide +kernel
  have hruleId : ruleIdOf (.text "34") = .ok 34 := by decide +kernel
  have hruleId' : ruleIdOf (.text "3.4e1") = .ok 34 := by decide +kernel
  exact ⟨⟨hform, hdenotes _ _ hform hlimit⟩, hfloat _ _ hrat,
    ⟨hid.trans hid'.symm, hcouplet _ _ _ hid hid' hlimit hlimit'⟩,
    hruleId.trans hruleId'.symm, hrule _ _ _ hruleId hruleId'⟩

/-- A text just above one is read as one, and is taken for it as an id of either kind. The limit is
taken for the greatest integer of 64 bits. -/
theorem toInteger?_inexact :
    ((Value.text "1.00000000000000000001").toInteger? = some 1 ∧
      (Value.text "1.00000000000000000001").denotes? = some (1 + 1 / 100000000000000000000)) ∧
      CoupletId.ofValue? (.text "1.00000000000000000001") = CoupletId.ofValue? (.integer 1) ∧
      ruleIdOf (.text "1.00000000000000000001") = ruleIdOf (.integer 1) ∧
      (Value.float (.ofInt limit)).toInteger? = some Int64.maxValue ∧
      (Value.float (.ofInt limit)).denotes? = some (limit : ℚ) := by
  have hread : readNumeral? (trimChars "1.00000000000000000001".toList) =
      some (.decimal ⟨false, 100000000000000000001, -20⟩) := by decide +kernel
  refine ⟨⟨by decide +kernel, ?_⟩, by decide +kernel, by decide +kernel, by decide +kernel,
    by decide +kernel⟩
  rw [denotes?, numeralValue?, hread]
  norm_num [Numeral.toRat?, Decimal.toRat, signedBy]

end Value

end ClassificationKey
