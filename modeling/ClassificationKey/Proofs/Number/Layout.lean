import ClassificationKey.Number.Layout
import ClassificationKey.Proofs.Number.Shortest
import Mathlib.Data.List.TakeWhile

/-!
# Texts of doubles

A `Spelling` is what a layout writes: a sign, digits around a point, and perhaps an exponent. It is
read as the same decimal however its exponent is written (`Spelling.readNumeral?_text`), so giving the
exponent a sign and more digits changes nothing (`Spelling.signExponent_plain`). What a layout writes
for a finite double is a spelling that is read as this double (`Layout.exists_spelling`).
-/

namespace ClassificationKey.Number

open Binary64

/-! ## Runs of digits -/

theorem isDigit_of_mem_toDigits {n : Nat} {c : Char} (h : c ∈ Nat.toDigits 10 n) :
    c.isDigit = true := Nat.isDigit_of_mem_toDigits (by decide) (by decide) h

@[simp] theorem digitsValue_toDigits (n : Nat) : digitsValue (Nat.toDigits 10 n) = n :=
  Nat.ofDigitChars_ten_toDigits

theorem digitsValue_zeros_append (k : Nat) (ds : List Char) :
    digitsValue (List.replicate k '0' ++ ds) = digitsValue ds := by
  change Nat.ofDigitChars 10 (List.replicate k '0' ++ ds) 0 = Nat.ofDigitChars 10 ds 0
  rw [Nat.ofDigitChars_append, Nat.ofDigitChars_replicate_zero, Nat.mul_zero]

theorem digitsValue_append_zeros (ds : List Char) (k : Nat) :
    digitsValue (ds ++ List.replicate k '0') = digitsValue ds * 10 ^ k := by
  change Nat.ofDigitChars 10 (ds ++ List.replicate k '0') 0 = Nat.ofDigitChars 10 ds 0 * 10 ^ k
  rw [Nat.ofDigitChars_append, Nat.ofDigitChars_replicate_zero, Nat.mul_comm]

theorem splitSign_cons_of_isDigit {c : Char} {cs : List Char} (h : c.isDigit = true) :
    splitSign (c :: cs) = (false, c :: cs) := by
  unfold splitSign
  split
  · next heq =>
    cases heq
    cases h
  · next heq =>
    cases heq
    cases h
  · rfl

theorem span_append {p : Char → Bool} {ds : List Char} (rest : List Char)
    (hds : ∀ c ∈ ds, p c = true) (hrest : ∀ c ∈ rest.head?, p c = false) :
    (ds ++ rest).span p = (ds, rest) := by
  have htake : rest.takeWhile p = [] := by
    cases rest with
    | nil => rfl
    | cons c rest => exact List.takeWhile_cons_of_neg (by simp [hrest c rfl])
  have hdrop : rest.dropWhile p = rest := by
    cases rest with
    | nil => rfl
    | cons c rest => exact List.dropWhile_cons_of_neg (by simp [hrest c rfl])
  rw [List.span_eq_takeWhile_dropWhile, List.takeWhile_append_of_pos hds,
    List.dropWhile_append_of_pos hds, htake, hdrop, List.append_nil]

/-! ## Exponents -/

/-- An exponent with a sign in any case, and at least so many digits. -/
def signedExponent (width : Nat) (e : Int) : List Char :=
  (if e < 0 then '-' else '+') :: padLeft width (Nat.toDigits 10 e.natAbs)

theorem isDigit_of_mem_padLeft {width n : Nat} {c : Char}
    (h : c ∈ padLeft width (Nat.toDigits 10 n)) : c.isDigit = true := by
  rcases List.mem_append.mp h with hzero | hdigit
  · rw [List.eq_of_mem_replicate hzero]
    decide
  · exact isDigit_of_mem_toDigits hdigit

theorem le_length_padLeft (width : Nat) (ds : List Char) : width ≤ (padLeft width ds).length := by
  rw [padLeft, List.length_append, List.length_replicate]
  omega

theorem splitSign_exponent (e : Int) :
    splitSign (Layout.exponent e) = (decide (e < 0), Nat.toDigits 10 e.natAbs) := by
  by_cases he : e < 0
  · simp [Layout.exponent, splitSign, he]
  · obtain ⟨c, cs, hcs⟩ := List.exists_cons_of_ne_nil (Nat.toDigits_ne_nil (n := e.natAbs) (b := 10))
    have hdigit : c.isDigit = true := isDigit_of_mem_toDigits (hcs ▸ List.mem_cons_self)
    rw [Layout.exponent, if_neg he, List.nil_append, hcs, splitSign_cons_of_isDigit hdigit,
      decide_eq_false he]

theorem splitSign_signedExponent (width : Nat) (e : Int) :
    splitSign (signedExponent width e) =
      (decide (e < 0), padLeft width (Nat.toDigits 10 e.natAbs)) := by
  by_cases he : e < 0 <;> simp [signedExponent, splitSign, he]

/-- A mark, and what splits into the sign of `e` and digits of its magnitude. -/
theorem readExponent?_cons {mark : Char} {cs ds : List Char} {e : Int}
    (hmark : mark = 'e' ∨ mark = 'E') (hsplit : splitSign cs = (decide (e < 0), ds)) (hne : ds ≠ [])
    (hdigits : ∀ c ∈ ds, c.isDigit = true) (hvalue : digitsValue ds = e.natAbs) :
    readExponent? (mark :: cs) = some e := by
  have hall : ds.all Char.isDigit = true := List.all_eq_true.mpr hdigits
  have hsigned : (if e < 0 then -(e.natAbs : Int) else e.natAbs) = e := by omega
  rcases hmark with rfl | rfl <;>
    simp [readExponent?, hsplit, hne, hall, hvalue, hsigned, -Nat.cast_natAbs]

theorem readExponent?_exponent {mark : Char} (hmark : mark = 'e' ∨ mark = 'E') (e : Int) :
    readExponent? (mark :: Layout.exponent e) = some e :=
  readExponent?_cons hmark (splitSign_exponent e) Nat.toDigits_ne_nil
    (fun _ => isDigit_of_mem_toDigits) (digitsValue_toDigits _)

theorem readExponent?_signedExponent {mark : Char} (hmark : mark = 'e' ∨ mark = 'E') (width : Nat)
    (e : Int) : readExponent? (mark :: signedExponent width e) = some e := by
  refine readExponent?_cons hmark (splitSign_signedExponent width e) ?_
    (fun _ => isDigit_of_mem_padLeft) ?_
  · simp [padLeft, Nat.toDigits_ne_nil]
  · rw [padLeft, digitsValue_zeros_append, digitsValue_toDigits]

/-- What is read as an exponent is empty or starts with a mark. -/
theorem head_of_readExponent? {cs : List Char} {e : Int} (h : readExponent? cs = some e) :
    ∀ c ∈ cs.head?, c = 'e' ∨ c = 'E' := by
  cases cs with
  | nil => simp
  | cons c cs =>
    rintro d ⟨⟩
    simp only [readExponent?, Option.ite_none_right_eq_some, Bool.and_eq_true, Bool.or_eq_true,
      decide_eq_true_eq] at h
    exact h.1.1.1

/-! ## Spellings -/

/-- The sign of a number, where it is negative. -/
def minus (negative : Bool) : List Char := if negative then ['-'] else []

/-- The parts of a numeral that writes no integer: it has a fraction or an exponent. -/
structure Spelling where
  negative : Bool
  whole : List Char
  fraction : List Char
  exponent : Option Int
  whole_ne_nil : whole ≠ []
  digits : ∀ c ∈ whole ++ fraction, c.isDigit = true
  marked : fraction ≠ [] ∨ exponent ≠ none

namespace Spelling

variable (s : Spelling)

/-- The point and the digits behind it. -/
def point : List Char := if s.fraction = [] then [] else '.' :: s.fraction

/-- What stands before the exponent. -/
def front : List Char := minus s.negative ++ (s.whole ++ s.point)

/-- The numeral, the exponent written by the given function. -/
def text (write : Int → List Char) : List Char := s.front ++ s.exponent.elim [] write

/-- The numeral as a layout has it. -/
def plain : List Char := s.text fun e => 'e' :: Layout.exponent e

/-- The numeral with a signed exponent behind the mark. -/
def signed (mark : Char) (width : Nat) : List Char := s.text fun e => mark :: signedExponent width e

/-- The decimal that the numeral writes. -/
def decimal : Decimal :=
  ⟨s.negative, digitsValue (s.whole ++ s.fraction), s.exponent.getD 0 - s.fraction.length⟩

theorem mem_front {c : Char} (h : c ∈ s.front) : c.isDigit = true ∨ c = '-' ∨ c = '.' := by
  rw [front, minus, point, List.mem_append, List.mem_append] at h
  rcases h with hsign | hwhole | hfraction
  · split at hsign
    · exact .inr (.inl (List.mem_singleton.mp hsign))
    · cases hsign
  · exact .inl (s.digits c (List.mem_append_left _ hwhole))
  · split at hfraction
    · cases hfraction
    · rcases List.mem_cons.mp hfraction with rfl | hmem
      · exact .inr (.inr rfl)
      · exact .inl (s.digits c (List.mem_append_right _ hmem))

theorem not_mem_front {c : Char} (hdigit : c.isDigit = false) (hminus : c ≠ '-') (hpoint : c ≠ '.') :
    c ∉ s.front := by
  intro h
  rcases s.mem_front h with h | h | h
  · rw [hdigit] at h
    cases h
  · exact hminus h
  · exact hpoint h

theorem splitSign_text (write : Int → List Char) :
    splitSign (s.text write) =
      (s.negative, s.whole ++ (s.point ++ s.exponent.elim [] write)) := by
  obtain ⟨d, ds, hwhole⟩ := List.exists_cons_of_ne_nil s.whole_ne_nil
  have hdigit : d.isDigit = true := s.digits d (by simp [hwhole])
  rw [text, front, List.append_assoc, List.append_assoc]
  cases s.negative with
  | false =>
    rw [hwhole]
    exact splitSign_cons_of_isDigit hdigit
  | true => rfl

theorem readDecimal?_text {tail : List Char} {e : Int} (htail : readExponent? tail = some e) :
    readDecimal? s.negative (s.whole ++ (s.point ++ tail)) =
      some ⟨s.negative, digitsValue (s.whole ++ s.fraction), e - s.fraction.length⟩ := by
  have hmark := head_of_readExponent? htail
  have hdigits : ∀ c ∈ tail.head?, c.isDigit = false := by
    intro c hc
    rcases hmark c hc with rfl | rfl <;> decide
  have hpoint : ∀ c ∈ (s.point ++ tail).head?, c.isDigit = false := by
    unfold point
    split
    · exact hdigits
    · rintro c ⟨⟩
      decide
  have hwhole := span_append _ (fun c hc => s.digits c (List.mem_append_left _ hc)) hpoint
  have hfraction : splitFraction (s.point ++ tail) = (s.fraction, tail) := by
    unfold point
    split
    · next hnil =>
      rw [hnil, List.nil_append]
      unfold splitFraction
      split
      · next cs =>
        rcases hmark '.' rfl with h | h <;> cases h
      · rfl
    · exact span_append _ (fun c hc => s.digits c (List.mem_append_right _ hc)) hdigits
  unfold readDecimal?
  simp only [hwhole, hfraction, htail, s.whole_ne_nil, decide_false, Bool.false_and, if_false,
    Bool.false_eq_true, Option.map_some]

/-- However the exponent is written, the numeral is read as its decimal. -/
theorem readNumeral?_text {write : Int → List Char} (h : ∀ e, readExponent? (write e) = some e) :
    readNumeral? (s.text write) = some (.decimal s.decimal) := by
  have htail : readExponent? (s.exponent.elim [] write) = some (s.exponent.getD 0) := by
    cases s.exponent with
    | none => rfl
    | some e => exact h e
  -- a digit is the first letter of no word
  have hword : ∀ {c : Char} {w : List Char}, c.isDigit = false →
      (s.whole ++ (s.point ++ s.exponent.elim [] write)).map Char.toLower ≠ c :: w := by
    intro c w hc heq
    obtain ⟨d, ds, hwhole⟩ := List.exists_cons_of_ne_nil s.whole_ne_nil
    have hdigit : d.isDigit = true := s.digits d (by simp [hwhole])
    rw [hwhole, List.cons_append, List.map_cons, toLower_of_isDigit hdigit, List.cons.injEq] at heq
    rw [heq.1, hc] at hdigit
    cases hdigit
  have hn : Char.isDigit 'n' = false := by decide
  have hi : Char.isDigit 'i' = false := by decide
  unfold readNumeral?
  simp only [splitSign_text, hword hn, hword hi, s.readDecimal?_text htail, if_false, decide_false,
    Bool.or_self, Bool.false_eq_true, Option.map_some]
  rfl

/-- A numeral with a point or an exponent is read as no integer. -/
theorem readInteger?_text {write : Int → List Char}
    (h : ∀ e, ∃ c ∈ write e, c.isDigit = false) : readInteger? (s.text write) = none := by
  rw [Option.eq_none_iff_forall_ne_some]
  intro i hi
  obtain ⟨-, hall, -⟩ := readInteger?_eq_some_iff.mp hi
  rw [splitSign_text, List.all_eq_true] at hall
  have hmark : ∃ c ∈ s.point ++ s.exponent.elim [] write, c.isDigit = false := by
    rcases s.marked with hfraction | hexponent
    · exact ⟨'.', by simp [point, hfraction], by decide⟩
    · obtain ⟨e, he⟩ := Option.ne_none_iff_exists'.mp hexponent
      obtain ⟨c, hc, hdigit⟩ := h e
      exact ⟨c, by simp [he, hc], hdigit⟩
  obtain ⟨c, hc, hdigit⟩ := hmark
  rw [hall c (List.mem_append_right _ hc)] at hdigit
  cases hdigit

theorem signExponent_plain (width : Nat) : signExponent width s.plain = s.signed 'e' width := by
  have hfront : ∀ c ∈ s.front, decide (c ≠ 'e') = true := by
    intro c hc
    rw [decide_eq_true_eq]
    rintro rfl
    exact s.not_mem_front (by decide) (by decide) (by decide) hc
  rw [plain, signed, text, text]
  cases s.exponent with
  | none =>
    have hspan := span_append [] hfront (by simp)
    rw [List.append_nil] at hspan
    simp only [Option.elim_none, List.append_nil, signExponent, hspan]
  | some e =>
    have hspan := span_append ('e' :: Layout.exponent e) hfront (by rintro c ⟨⟩; decide)
    simp only [Option.elim_some, signExponent, hspan]
    by_cases he : e < 0
    · simp [Layout.exponent, signedExponent, he]
    · obtain ⟨c, ds, hds⟩ :=
        List.exists_cons_of_ne_nil (Nat.toDigits_ne_nil (n := e.natAbs) (b := 10))
      have hminus : c ≠ '-' := by
        rintro rfl
        have hdigit := isDigit_of_mem_toDigits (c := '-') (hds ▸ List.mem_cons_self)
        exact absurd hdigit (by decide)
      simp [Layout.exponent, signedExponent, he, hds, hminus]

end Spelling

/-! ## What a layout writes -/

namespace Layout

section Digits

variable {ds : List Char} (hds : ∀ c ∈ ds, c.isDigit = true) (hne : ds ≠ [])

include hds hne

/-- A number below one has zeros behind the point. -/
theorem exists_spelling_zeros (negative : Bool) (k : Nat) :
    ∃ s : Spelling,
      minus negative ++ '0' :: '.' :: (List.replicate k '0' ++ ds) = s.plain ∧
        s.decimal = ⟨negative, digitsValue ds, -(k + ds.length : Nat)⟩ := by
  refine ⟨⟨negative, ['0'], List.replicate k '0' ++ ds, none, by simp, ?_, .inl (by simp [hne])⟩,
    ?_, ?_⟩
  · intro c hc
    simp only [List.mem_append, List.mem_singleton, List.mem_replicate] at hc
    rcases hc with rfl | ⟨-, rfl⟩ | hc
    · decide
    · decide
    · exact hds c hc
  · simp [Spelling.plain, Spelling.text, Spelling.front, Spelling.point, hne]
  · have hvalue := digitsValue_zeros_append (k + 1) ds
    rw [List.replicate_succ, List.cons_append] at hvalue
    simp [Spelling.decimal, hvalue]

/-- A point among the digits. -/
theorem exists_spelling_split (negative : Bool) (exponent : Option Int) {w : Nat} (hw : 0 < w)
    (hmarked : w < ds.length ∨ exponent ≠ none) :
    ∃ s : Spelling,
      minus negative ++
          (ds.take w ++ (if ds.drop w = [] then [] else '.' :: ds.drop w)) ++
          exponent.elim [] (fun e => 'e' :: Layout.exponent e) = s.plain ∧
        s.decimal = ⟨negative, digitsValue ds, exponent.getD 0 - (ds.length - w : Nat)⟩ := by
  refine ⟨⟨negative, ds.take w, ds.drop w, exponent, ?_, ?_, ?_⟩, rfl, ?_⟩
  · simp [hne, hw.ne']
  · rwa [List.take_append_drop]
  · exact hmarked.imp_left fun hlt => by simpa using hlt
  · simp [Spelling.decimal]

/-- Zeros before the point and one behind it. -/
theorem exists_spelling_whole (negative : Bool) (k : Nat) :
    ∃ s : Spelling,
      minus negative ++ (ds ++ List.replicate k '0' ++ ['.', '0']) = s.plain ∧
        s.decimal = ⟨negative, digitsValue ds * 10 ^ (k + 1), -1⟩ := by
  refine ⟨⟨negative, ds ++ List.replicate k '0', ['0'], none, by simp [hne], ?_, .inl (by simp)⟩,
    ?_, ?_⟩
  · intro c hc
    simp only [List.mem_append, List.mem_singleton, List.mem_replicate] at hc
    rcases hc with (hc | ⟨-, rfl⟩) | rfl
    · exact hds c hc
    · decide
    · decide
  · simp [Spelling.plain, Spelling.text, Spelling.front, Spelling.point]
  · have hvalue := digitsValue_append_zeros ds (k + 1)
    rw [List.replicate_succ'] at hvalue
    simp [Spelling.decimal, hvalue]

/-- Zeros that fill the digits up to the point count as zeros after the decimal. -/
theorem exists_spelling_inPlace (negative : Bool) {e exponent : Int}
    (he : e = exponent + ds.length - 1) :
    ∃ (s : Spelling) (k : Nat),
      minus negative ++ inPlace ds e = s.plain ∧
        s.decimal = ⟨negative, digitsValue ds * 10 ^ k, exponent - k⟩ := by
  have hlength : 0 < ds.length := List.length_pos_iff.mpr hne
  unfold inPlace
  by_cases hneg : e < 0
  · obtain ⟨s, hplain, hdecimal⟩ := exists_spelling_zeros hds hne negative (-e - 1).toNat
    refine ⟨s, 0, by rw [if_pos hneg, hplain], ?_⟩
    rw [hdecimal, Decimal.mk.injEq]
    refine ⟨rfl, (Nat.mul_one _).symm, ?_⟩
    omega
  · rw [if_neg hneg]
    dsimp only
    rcases Nat.lt_or_ge (e.toNat + 1) ds.length with hlt | hge
    · obtain ⟨s, hplain, hdecimal⟩ := exists_spelling_split hds hne negative none
        (Nat.succ_pos e.toNat) (.inl hlt)
      refine ⟨s, 0, ?_, ?_⟩
      · have hzeros : e.toNat + 1 - ds.length = 0 := by omega
        have hdrop : ds.drop (e.toNat + 1) ≠ [] := by simpa using hlt
        rw [← hplain, hzeros]
        simp [fraction, hdrop]
      · rw [hdecimal, Decimal.mk.injEq]
        refine ⟨rfl, (Nat.mul_one _).symm, ?_⟩
        simp only [Option.getD_none]
        omega
    · obtain ⟨s, hplain, hdecimal⟩ := exists_spelling_whole hds hne negative
        (e.toNat + 1 - ds.length)
      refine ⟨s, e.toNat + 1 - ds.length + 1, ?_, ?_⟩
      · rw [← hplain, List.take_of_length_le hge, List.drop_of_length_le hge]
        rfl
      · rw [hdecimal, Decimal.mk.injEq]
        refine ⟨rfl, rfl, ?_⟩
        omega

theorem exists_spelling_scientific (negative : Bool) {e exponent : Int}
    (he : e = exponent + ds.length - 1) :
    ∃ s : Spelling,
      minus negative ++ scientific ds e = s.plain ∧
        s.decimal = ⟨negative, digitsValue ds, exponent⟩ := by
  obtain ⟨s, hplain, hdecimal⟩ := exists_spelling_split hds hne negative (some e)
    Nat.one_pos (.inr (Option.some_ne_none e))
  have hlength : 0 < ds.length := List.length_pos_iff.mpr hne
  refine ⟨s, by rw [← hplain, scientific, List.append_assoc (minus negative)]; rfl, ?_⟩
  rw [hdecimal, Decimal.mk.injEq]
  refine ⟨rfl, rfl, ?_⟩
  simp only [Option.getD_some]
  omega

end Digits

/-- What a layout writes for a finite rank is a numeral that is read as this rank. -/
theorem exists_spelling_magnitude (l : Layout) {rank : Nat} (htop : rank < topRank)
    (negative : Bool) :
    ∃ s : Spelling, minus negative ++ l.magnitude rank = s.plain ∧
      s.decimal.toBinary64 = .ofRank negative rank := by
  unfold magnitude
  by_cases hzero : rank = 0
  · have hdigit : ∀ c ∈ ['0'], c.isDigit = true := by simp
    obtain ⟨s, hplain, hdecimal⟩ := exists_spelling_zeros hdigit (List.cons_ne_nil _ _) negative 0
    refine ⟨s, by rw [if_pos hzero, ← hplain]; rfl, ?_⟩
    have hvalue : digitsValue ['0'] = 0 := rfl
    rw [hdecimal, hzero, hvalue]
    simp [Decimal.toBinary64]
  · have hread := readsBack_shortest (Nat.pos_of_ne_zero hzero)
    rw [if_neg hzero]
    dsimp only
    generalize shortest rank = decimal at hread ⊢
    obtain ⟨n, exponent⟩ := decimal
    have hvalue := digitsValue_toDigits n
    have hreads := fun k =>
      Decimal.toBinary64_of_readsBack (Nat.pos_of_ne_zero hzero) htop hread negative k
    split
    · obtain ⟨s, k, hplain, hdecimal⟩ := exists_spelling_inPlace (fun _ => isDigit_of_mem_toDigits)
        Nat.toDigits_ne_nil negative rfl
      exact ⟨s, hplain, by rw [hdecimal, hvalue]; exact hreads k⟩
    · obtain ⟨s, hplain, hdecimal⟩ := exists_spelling_scientific
        (fun _ => isDigit_of_mem_toDigits) Nat.toDigits_ne_nil negative rfl
      refine ⟨s, hplain, ?_⟩
      have hplainly := hreads 0
      rw [Nat.pow_zero, Nat.mul_one, Int.natCast_zero, Int.sub_zero] at hplainly
      rw [hdecimal, hvalue]
      exact hplainly

theorem exists_spelling (l : Layout) {x : Binary64} (hx : x.isFinite = true) :
    ∃ s : Spelling, (l.write x).toList = s.plain ∧ s.decimal.toBinary64 = x := by
  cases x with
  | nan => cases hx
  | signed negative rank =>
    have htop : rank.val < topRank := of_decide_eq_true hx
    obtain ⟨s, hplain, hread⟩ := l.exists_spelling_magnitude htop negative
    refine ⟨s, ?_, ?_⟩
    · rw [write, String.toList_ofList, if_neg htop.ne]
      exact hplain
    · rw [hread, ofRank]
      congr 1
      exact Fin.ext (Nat.min_eq_left htop.le)

end Layout

end ClassificationKey.Number
