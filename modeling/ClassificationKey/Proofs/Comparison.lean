import ClassificationKey.Proofs.Rule

/-!
# Comparing an attribute with a literal

A comparison depends on the operator and on two upper-cased texts (`Rule.apply_of_ofOperator`). The
four orderings and equality split the texts between them, as numbers and as texts, unless `nan` comes
in (`Rule.compare_splits`). Equality of numbers has a tolerance, which is relative: two numbers are
equal when they are close, and also when one of them is infinite, since the tolerance is then infinite
too (`Rule.isClose_iff`).
-/

namespace ClassificationKey

open Binary64 Text

/-! ## Order of doubles -/

namespace Binary64

variable {x y : Binary64}

/-- Neither finite nor `nan`. -/
def isInfinite (x : Binary64) : Bool := !x.isNan && !x.isFinite

theorem isNan_iff_place? : x.isNan = true ↔ x.place? = none := by
  cases x with
  | nan => exact ⟨fun _ => rfl, fun _ => rfl⟩
  | signed negative rank => exact ⟨nofun, nofun⟩

theorem exists_place? (h : x.isNan = false) : ∃ i, x.place? = some i := by
  cases x with
  | nan => cases h
  | signed negative rank => exact ⟨_, rfl⟩

theorem compareBy_of_place? {r : Int → Int → Bool} {i j : Int} (hx : x.place? = some i)
    (hy : y.place? = some j) : compareBy r x y = r i j := by
  rw [compareBy, hx, hy]

theorem compareBy_of_isNan {r : Int → Int → Bool} (h : x.isNan = true ∨ y.isNan = true) :
    compareBy r x y = false := by
  unfold compareBy
  rcases h with h | h <;> rw [isNan_iff_place?.mp h]
  cases x.place? <;> rfl

end Binary64

namespace Rule

/-! ## Tolerance -/

/-- Equal, or both finite and no further apart than the tolerance allows. -/
def Close (a b : Binary64) : Prop :=
  a.eq b = true ∨
    (a.isFinite = true ∧ b.isFinite = true ∧
      (a.sub b).abs.le (tolerance.mul (a.abs.max b.abs)) = true)

/-- Two numbers that differ, of which one at least is infinite. -/
def InfinitelyApart (a b : Binary64) : Prop :=
  a.isNan = false ∧ b.isNan = false ∧ (a.isInfinite = true ∨ b.isInfinite = true) ∧ a.eq b = false

theorem not_close_of_infinitelyApart {a b : Binary64} (h : InfinitelyApart a b) : ¬ Close a b := by
  obtain ⟨-, -, hinfinite, hne⟩ := h
  rintro (heq | ⟨ha, hb, -⟩)
  · rw [hne] at heq
    cases heq
  · simp [isInfinite, ha, hb] at hinfinite

/-- The tolerance is positive and finite. -/
theorem exists_tolerance_eq :
    ∃ rank : Fin (topRank + 1), tolerance = .signed false rank ∧ rank.val ≠ 0 ∧
      rank.val ≠ topRank :=
  ⟨_, rfl, by decide +kernel, by decide +kernel⟩

theorem max_signed (a b : Fin (topRank + 1)) :
    (signed false a).max (signed false b) = .signed false (if a < b then b else a) := by
  have hlt : (signed false a).lt (signed false b) = decide (a < b) := by
    rw [lt, compareBy_of_place? rfl rfl]
    exact decide_eq_decide.mpr Int.ofNat_lt
  simp only [Binary64.max, isNan, hlt]
  by_cases h : a < b <;> simp [h]

theorem max_zero (a : Fin (topRank + 1)) : (signed false a).max .zero = .signed false a := by
  have hzero : Binary64.zero = .signed false 0 := rfl
  rw [hzero, max_signed, if_neg (Fin.not_lt_zero a)]

theorem exists_mul_tolerance {rank : Fin (topRank + 1)} (h : rank.val ≠ topRank) :
    ∃ bound, tolerance.mul (.signed false rank) = .signed false bound := by
  obtain ⟨r, hr, -, hfinite⟩ := exists_tolerance_eq
  have hmul : tolerance.mul (.signed false rank) =
      ofRank false (nearestRank (units r * units rank) unitsPerOne) := by
    rw [hr, mul, if_neg (by simp [h, hfinite])]
    rfl
  exact ⟨_, hmul⟩

theorem mul_tolerance_infinity : tolerance.mul infinity = infinity := by
  obtain ⟨rank, hrank, hzero, -⟩ := exists_tolerance_eq
  have hinfinity : infinity = .signed false ⟨topRank, Nat.lt_succ_self _⟩ := rfl
  have htop : topRank ≠ 0 := by decide
  rw [hrank, hinfinity, mul, if_pos (by simp), if_neg (by simp [hzero, htop])]
  rfl

theorem isInfinite_signed_iff {negative : Bool} {rank : Fin (topRank + 1)} :
    (signed negative rank).isInfinite = true ↔ rank.val = topRank := by
  have hrank := rank.isLt
  simp only [isInfinite, isNan, isFinite, Bool.not_false, Bool.true_and, Bool.not_eq_true',
    decide_eq_false_iff_not]
  omega

theorem signed_eq_infinity {rank : Fin (topRank + 1)} (h : rank.val = topRank) :
    signed false rank = infinity := by
  obtain rfl : rank = ⟨topRank, Nat.lt_succ_self _⟩ := Fin.ext h
  rfl

/-- Numbers that are infinitely far apart, by sign and rank. -/
theorem InfinitelyApart.exists_signed {a b : Binary64} (h : InfinitelyApart a b) :
    ∃ s i t j, a = .signed s i ∧ b = .signed t j ∧ (i.val = topRank ∨ j.val = topRank) ∧
      ¬ (i = j ∧ s = t) := by
  obtain ⟨ha, hb, hinfinite, hne⟩ := h
  cases a with
  | nan => cases ha
  | signed s i =>
    cases b with
    | nan => cases hb
    | signed t j =>
      rw [isInfinite_signed_iff, isInfinite_signed_iff] at hinfinite
      refine ⟨s, i, t, j, rfl, rfl, hinfinite, ?_⟩
      rintro ⟨rfl, rfl⟩
      rw [eq, compareBy_of_place? rfl rfl, beq_self_eq_true] at hne
      cases hne

theorem abs_sub_of_infinitelyApart {a b : Binary64} (h : InfinitelyApart a b) :
    (a.sub b).abs = infinity := by
  obtain ⟨s, i, t, j, rfl, rfl, hinfinite, hne⟩ := h.exists_signed
  rw [sub, neg, add]
  by_cases hi : i.val = topRank
  · have hsigns : (decide (j.val = topRank) && s != !t) = false := by
      by_contra hsame
      rw [Bool.not_eq_false, Bool.and_eq_true, decide_eq_true_eq] at hsame
      refine hne ⟨Fin.ext (hi.trans hsame.1.symm), ?_⟩
      have hs := hsame.2
      cases s <;> cases t <;> simp_all
    rw [if_pos hi, hsigns]
    exact signed_eq_infinity hi
  · have hj := hinfinite.resolve_left hi
    rw [if_neg hi, if_pos hj]
    exact signed_eq_infinity hj

theorem max_abs_of_infinitelyApart {a b : Binary64} (h : InfinitelyApart a b) :
    a.abs.max b.abs = infinity := by
  obtain ⟨s, i, t, j, rfl, rfl, hinfinite, -⟩ := h.exists_signed
  rw [Binary64.abs, Binary64.abs, max_signed]
  refine signed_eq_infinity ?_
  have hi := i.isLt
  have hj := j.isLt
  split
  · next hlt =>
    rw [Fin.lt_def] at hlt
    omega
  · next hlt =>
    rw [Fin.lt_def] at hlt
    omega

theorem isClose_of_infinitelyApart {a b : Binary64} (h : InfinitelyApart a b) :
    isClose a b = true := by
  rw [isClose, abs_sub_of_infinitelyApart h, max_abs_of_infinitelyApart h, mul_tolerance_infinity,
    Bool.or_eq_true]
  exact .inr (by rfl)

theorem isClose_of_isNan {a b : Binary64} (h : a.isNan = true ∨ b.isNan = true) :
    isClose a b = false := by
  have hsub : (a.sub b).abs.isNan = true := by
    cases a with
    | nan => rfl
    | signed s i =>
      cases b with
      | nan => rfl
      | signed t j => exact absurd h (by simp [isNan])
  rw [isClose, eq, le, compareBy_of_isNan h, compareBy_of_isNan (.inl hsub), Bool.or_false]

/-- Finite numbers are compared by the tolerance alone. -/
theorem isClose_iff_of_isFinite {a b : Binary64} (ha : a.isFinite = true) (hb : b.isFinite = true) :
    isClose a b = true ↔ Close a b := by
  have hbound : (tolerance.mul (a.abs.max b.abs)).max .zero =
      tolerance.mul (a.abs.max b.abs) := by
    cases a with
    | nan => cases ha
    | signed s i =>
      cases b with
      | nan => cases hb
      | signed t j =>
        rw [isFinite, decide_eq_true_eq] at ha hb
        rw [Binary64.abs, Binary64.abs, max_signed]
        have hrank : (if i < j then j else i).val ≠ topRank := by
          split <;> omega
        obtain ⟨bound, hmul⟩ := exists_mul_tolerance hrank
        rw [hmul, max_zero]
  rw [isClose, hbound, Bool.or_eq_true, Close]
  simp only [ha, hb, true_and]

/-- Numbers are equal when they are close, and when an infinity makes the tolerance infinite. -/
theorem isClose_iff {a b : Binary64} :
    isClose a b = true ↔ Close a b ∨ InfinitelyApart a b := by
  constructor
  · intro h
    by_cases hfinite : a.isFinite = true ∧ b.isFinite = true
    · exact .inl ((isClose_iff_of_isFinite hfinite.1 hfinite.2).mp h)
    · have hnumbers : a.isNan = false ∧ b.isNan = false := by
        by_contra hnan
        rw [not_and_or, Bool.not_eq_false, Bool.not_eq_false] at hnan
        rw [isClose_of_isNan hnan] at h
        cases h
      cases heq : a.eq b with
      | true => exact .inl (.inl heq)
      | false =>
        refine .inr ⟨hnumbers.1, hnumbers.2, ?_, heq⟩
        rw [not_and_or, Bool.not_eq_true, Bool.not_eq_true] at hfinite
        simpa [isInfinite, hnumbers] using hfinite
  · rintro ((heq | ⟨ha, hb, hle⟩) | hapart)
    · rw [isClose, heq, Bool.true_or]
    · exact (isClose_iff_of_isFinite ha hb).mpr (.inr ⟨ha, hb, hle⟩)
    · exact isClose_of_infinitelyApart hapart

/-! ## Rules made from an operator -/

theorem get?_trim (record : Record) (name : String) : record.get? (trim name) = record.get? name := by
  rw [Record.get?, Record.get?, Record.normalise, Record.normalise, trim_trim]

/-- The outcome of a comparison rule on a record that has its attribute. -/
theorem apply_of_ofOperator {value attributeName name comment : String} {c : Comparison}
    {record : Record} {v : Value} {rule : Rule}
    (hrule : ofOperator value attributeName (.compare c) name comment = .ok rule)
    (hv : record.get? attributeName = some v) :
    rule.apply record = .ok (compare c (upper (trim v.toText)) (upper (trim value))) := by
  rw [ofOperator_compare, Except.ok.injEq] at hrule
  subst hrule
  rw [apply, get?_trim, hv]
  rfl

theorem compare_of_number? {c : Comparison} (hc : c ≠ .contains) {s t : String} {a b : Binary64}
    (hs : number? s = some a) (ht : number? t = some b) :
    compare c s t = compareNumbers c a b := by
  cases c with
  | contains => exact absurd rfl hc
  | _ => simp only [compare, hs, ht]

theorem compare_of_not_number? {c : Comparison} (hc : c ≠ .contains) {s t : String}
    (h : number? s = none ∨ number? t = none) : compare c s t = compareTexts c s t := by
  cases c with
  | contains => exact absurd rfl hc
  | _ => rcases h with h | h <;> simp [compare, h]

/-- Two texts that both write numbers are equal when the numbers are close or infinitely apart, and
never when one of them is `nan`. Infinitely apart is where the tolerance is no bound: such numbers are
equal and not close, and no others are. -/
theorem apply_equal_spec {value attributeName name comment : String} {record : Record} {v : Value}
    {rule : Rule} {a b : Binary64}
    (hrule : ofOperator value attributeName (.compare .equal) name comment = .ok rule)
    (hv : record.get? attributeName = some v) (ha : number? (upper (trim v.toText)) = some a)
    (hb : number? (upper (trim value)) = some b) :
    ∃ verdict, rule.apply record = .ok verdict ∧
      (verdict = true ↔ Close a b ∨ InfinitelyApart a b) ∧
      (a.isNan = true ∨ b.isNan = true → verdict = false) ∧
      ((verdict = true ↔ Close a b) ↔ ¬ InfinitelyApart a b) := by
  refine ⟨isClose a b, ?_, isClose_iff, isClose_of_isNan, ?_⟩
  · rw [apply_of_ofOperator hrule hv, compare_of_number? (by decide) ha hb]
    rfl
  · rw [isClose_iff]
    constructor
    · intro h hapart
      exact not_close_of_infinitelyApart hapart (h.mp (.inr hapart))
    · intro hnot
      exact ⟨fun h => h.resolve_right hnot, .inl⟩

theorem apply_equal_nearFive :
    ∃ rule, ofOperator "5" "height" (.compare .equal) "five" "" = .ok rule ∧
      rule.apply (.ofList [("Height", .text " 5.000000001 ")]) = .ok true := by
  have hv : (Record.ofList [("Height", .text " 5.000000001 ")]).get? "height" =
      some (.text " 5.000000001 ") := by decide +kernel
  have ha : ∃ a, number? (upper (trim (Value.text " 5.000000001 ").toText)) = some a ∧
      Close a (.ofInt 5) := by
    refine ⟨_, rfl, .inr ⟨?_, ?_, ?_⟩⟩ <;> decide +kernel
  have hb : number? (upper (trim "5")) = some (.ofInt 5) := by decide +kernel
  obtain ⟨a, ha, hclose⟩ := ha
  have hrule := ofOperator_compare "5" "height" .equal "five" ""
  obtain ⟨verdict, happly, hverdict, -, -⟩ := apply_equal_spec hrule hv ha hb
  exact ⟨_, hrule, happly.trans (congrArg Except.ok (hverdict.mpr (.inl hclose)))⟩

/-- Infinity is equal to five, and to its own negative. -/
theorem apply_equal_infinity :
    ∃ rule, ofOperator "inf" "height" (.compare .equal) "unbounded" "" = .ok rule ∧
      rule.apply (.ofList [("height", .integer 5)]) = .ok true ∧
      rule.apply (.ofList [("height", .text "-inf")]) = .ok true ∧
      number? (upper (trim "inf")) = some infinity ∧
      number? (upper (trim (Value.integer 5).toText)) = some (.ofInt 5) ∧
      number? (upper (trim (Value.text "-inf").toText)) = some infinity.neg ∧
      ¬ Close (.ofInt 5) infinity ∧ ¬ Close infinity.neg infinity := by
  refine ⟨_, ofOperator_compare "inf" "height" .equal "unbounded" "", by decide +kernel,
    by decide +kernel, by decide +kernel, by decide +kernel, by decide +kernel, ?_, ?_⟩ <;>
    refine not_close_of_infinitelyApart ⟨?_, ?_, ?_, ?_⟩ <;> decide +kernel

/-! ## Orderings -/

/-- The verdicts of the operators on one text and one literal leave no gap and do not overlap. -/
structure Splits (verdict : Comparison → Bool) : Prop where
  atLeast_iff : verdict .atLeast = true ↔ verdict .below = false
  above_iff : verdict .above = true ↔ verdict .atMost = false
  atLeast_of_above : verdict .above = true → verdict .atLeast = true
  atMost_of_below : verdict .below = true → verdict .atMost = true
  some_holds : verdict .above = true ∨ verdict .below = true ∨ verdict .equal = true

/-- Both texts write numbers, and one of them is `nan`. -/
def Unordered (s t : String) : Prop :=
  ∃ a b, number? s = some a ∧ number? t = some b ∧ (a.isNan = true ∨ b.isNan = true)

theorem Splits.of_eq {f g : Comparison → Bool} (h : Splits f)
    (heq : ∀ c, c ≠ .contains → g c = f c) : Splits g := by
  have hequal := heq .equal nofun
  have hatLeast := heq .atLeast nofun
  have habove := heq .above nofun
  have hatMost := heq .atMost nofun
  have hbelow := heq .below nofun
  constructor <;> simp only [hequal, hatLeast, habove, hatMost, hbelow]
  · exact h.atLeast_iff
  · exact h.above_iff
  · exact h.atLeast_of_above
  · exact h.atMost_of_below
  · exact h.some_holds

theorem compareTexts_splits (s t : String) : Splits fun c => compareTexts c s t := by
  have hle : ∀ {s t : String}, s < t → s ≤ t := fun h => String.not_lt.mp (String.lt_asymm h)
  constructor <;> simp only [compareTexts, decide_eq_true_eq, decide_eq_false_iff_not, beq_iff_eq]
  · exact String.not_lt.symm
  · exact String.not_le.symm
  · exact hle
  · exact hle
  · by_cases habove : t < s
    · exact .inl habove
    · by_cases hbelow : s < t
      · exact .inr (.inl hbelow)
      · exact .inr (.inr (String.le_antisymm (String.not_lt.mp habove) (String.not_lt.mp hbelow)))

theorem compareNumbers_splits {a b : Binary64} (ha : a.isNan = false) (hb : b.isNan = false) :
    Splits fun c => compareNumbers c a b := by
  obtain ⟨i, hi⟩ := exists_place? ha
  obtain ⟨j, hj⟩ := exists_place? hb
  have hequal : i = j → isClose a b = true := by
    rintro rfl
    rw [isClose, eq, compareBy_of_place? hi hj, beq_self_eq_true, Bool.true_or]
  constructor <;> simp only [compareNumbers, le, lt, compareBy_of_place? hi hj,
    compareBy_of_place? hj hi, decide_eq_true_eq, decide_eq_false_iff_not]
  · omega
  · omega
  · omega
  · omega
  · rcases Int.lt_trichotomy i j with h | h | h
    · exact .inr (.inl h)
    · exact .inr (.inr (hequal h))
    · exact .inl h

theorem compareNumbers_of_isNan {c : Comparison} {a b : Binary64}
    (h : a.isNan = true ∨ b.isNan = true) : compareNumbers c a b = false := by
  cases c with
  | equal => exact isClose_of_isNan h
  | contains => rfl
  | atLeast => exact compareBy_of_isNan h.symm
  | above => exact compareBy_of_isNan h.symm
  | atMost => exact compareBy_of_isNan h
  | below => exact compareBy_of_isNan h

theorem compare_splits {s t : String} (h : ¬ Unordered s t) : Splits fun c => compare c s t := by
  cases hs : number? s with
  | none =>
    exact (compareTexts_splits s t).of_eq fun c hc => compare_of_not_number? hc (.inl hs)
  | some a =>
    cases ht : number? t with
    | none =>
      exact (compareTexts_splits s t).of_eq fun c hc => compare_of_not_number? hc (.inr ht)
    | some b =>
      have hnumbers : a.isNan = false ∧ b.isNan = false := by
        rw [← Bool.not_eq_true, ← Bool.not_eq_true, ← not_or]
        exact fun hnan => h ⟨a, b, hs, ht, hnan⟩
      exact (compareNumbers_splits hnumbers.1 hnumbers.2).of_eq fun c hc =>
        compare_of_number? hc hs ht

theorem compare_of_unordered {s t : String} (h : Unordered s t) {c : Comparison}
    (hc : c ≠ .contains) : compare c s t = false := by
  obtain ⟨a, b, hs, ht, hnan⟩ := h
  rw [compare_of_number? hc hs ht]
  exact compareNumbers_of_isNan hnan

/-- The rules with one literal and one attribute, one rule for each operator, have verdicts on every
record with this attribute. They split the records, unless a number is compared with `nan`, and then
all but containment are false. -/
theorem apply_splits {value attributeName : String} {record : Record}
    (h : record.contains attributeName = true) :
    ∃ v verdict, record.get? attributeName = some v ∧
      (∀ c name comment, ∃ rule,
        ofOperator value attributeName (.compare c) name comment = .ok rule ∧
          rule.apply record = .ok (verdict c)) ∧
      (Unordered (upper (trim v.toText)) (upper (trim value)) →
        ∀ c, c ≠ .contains → verdict c = false) ∧
      (¬ Unordered (upper (trim v.toText)) (upper (trim value)) → Splits verdict) := by
  obtain ⟨v, hv⟩ := Option.isSome_iff_exists.mp h
  refine ⟨v, fun c => compare c (upper (trim v.toText)) (upper (trim value)), hv, ?_, ?_,
    compare_splits⟩
  · intro c name comment
    have hrule := ofOperator_compare value attributeName c name comment
    exact ⟨_, hrule, apply_of_ofOperator hrule hv⟩
  · intro hunordered c hc
    exact compare_of_unordered hunordered hc

/-- A height of nine is compared with ten. -/
theorem apply_splits_height :
    (Record.ofList [("height", .integer 9)]).contains "Height" = true ∧
      ∃ verdict, Splits verdict ∧ ∀ c name comment, ∃ rule,
        ofOperator "10" "Height" (.compare c) name comment = .ok rule ∧
          rule.apply (.ofList [("height", .integer 9)]) = .ok (verdict c) := by
  have hcontains : (Record.ofList [("height", .integer 9)]).contains "Height" = true := by
    decide +kernel
  have hget : (Record.ofList [("height", .integer 9)]).get? "Height" = some (.integer 9) := by
    decide +kernel
  have hnine : number? (upper (trim (Value.integer 9).toText)) = some (.ofInt 9) := by
    decide +kernel
  have hten : number? (upper (trim "10")) = some (.ofInt 10) := by decide +kernel
  have hordered : ¬ Unordered (upper (trim (Value.integer 9).toText)) (upper (trim "10")) := by
    rintro ⟨a, b, ha, hb, hnan⟩
    rw [hnine, Option.some.injEq] at ha
    rw [hten, Option.some.injEq] at hb
    subst ha hb
    exact absurd hnan (by decide +kernel)
  obtain ⟨v, verdict, hv, happly, -, hsplits⟩ := @apply_splits "10" _ _ hcontains
  rw [hget, Option.some.injEq] at hv
  subst hv
  exact ⟨hcontains, verdict, hsplits hordered, happly⟩

end Rule

end ClassificationKey
