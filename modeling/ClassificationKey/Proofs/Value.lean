import ClassificationKey.Couplet
import ClassificationKey.Proofs.Text.Trim
import Mathlib.Data.List.TakeDrop

/-!
# Values in cells

A value that is not blank has a text that is not blank either (`Value.trim_toText_ne_empty`), and an
id that was read from a value is read from its own cell again (`CoupletId.ofValue?_toValue`).
-/

namespace ClassificationKey

open Text

/-! ## Texts of numbers -/

theorem exists_mem_toString_int (i : Int) : ∃ c ∈ (toString i).toList, isBlank c = false := by
  rw [Int.toString_eq_repr]
  cases i with
  | ofNat n =>
    obtain ⟨c, hc⟩ := List.exists_mem_of_ne_nil _ (Nat.toDigits_ne_nil (n := n) (b := 10))
    have hdigit : c.isDigit = true := Nat.isDigit_of_mem_toDigits (by decide) (by decide) hc
    refine ⟨c, ?_, isBlank_of_isDigit hdigit⟩
    rwa [Int.repr, ← Nat.toString_eq_repr, Nat.toString_eq_ofList_toDigits, String.toList_ofList]
  | negSucc n => exact ⟨'-', by simp [Int.repr], by decide⟩

namespace Number.Layout

theorem point_mem_inPlace (ds : List Char) (e : Int) : '.' ∈ inPlace ds e := by
  unfold inPlace
  split <;> simp

theorem exponent_mem_scientific (ds : List Char) (e : Int) : 'e' ∈ scientific ds e := by
  simp [scientific]

theorem exists_mem_magnitude (l : Layout) (rank : Nat) :
    ∃ c ∈ l.magnitude rank, isBlank c = false := by
  unfold magnitude
  split
  · exact ⟨'.', by decide, by decide⟩
  · dsimp only
    split
    · exact ⟨'.', point_mem_inPlace _ _, by decide⟩
    · exact ⟨'e', exponent_mem_scientific _ _, by decide⟩

theorem exists_mem_write (l : Layout) (x : Binary64) :
    ∃ c ∈ (l.write x).toList, isBlank c = false := by
  cases x with
  | nan => exact ⟨'N', by simp [write], by decide⟩
  | signed negative rank =>
    rw [write, String.toList_ofList]
    have hmagnitude : ∃ c ∈ if rank.val = topRank then ['i', 'n', 'f'] else l.magnitude rank,
        isBlank c = false := by
      split
      · exact ⟨'i', by decide, by decide⟩
      · exact l.exists_mem_magnitude rank
    obtain ⟨c, hc, hblank⟩ := hmagnitude
    exact ⟨c, List.mem_append_right _ hc, hblank⟩

end Number.Layout

theorem Number.exists_mem_signExponent (width : Nat) {cs : List Char}
    (h : ∃ c ∈ cs, isBlank c = false) : ∃ c ∈ signExponent width cs, isBlank c = false := by
  unfold signExponent
  split
  · next mantissa hspan =>
    rw [List.span_eq_takeWhile_dropWhile, Prod.mk.injEq] at hspan
    obtain ⟨rfl, hrest⟩ := hspan
    have hsplit := List.takeWhile_append_dropWhile (p := (· ≠ 'e')) (l := cs)
    rw [hrest, List.append_nil] at hsplit
    rwa [hsplit]
  · exact ⟨'e', by simp, by decide⟩
  · exact ⟨'e', by simp, by decide⟩

/-! ## Texts of values -/

theorem Value.trim_toText_ne_empty {v : Value} (h : v.isBlank = false) : trim v.toText ≠ "" := by
  cases v with
  | integer i =>
    obtain ⟨c, hc, hblank⟩ := exists_mem_toString_int i.toInt
    exact trim_ne_empty hc hblank
  | float x =>
    obtain ⟨c, hc, hblank⟩ := Number.exists_mem_signExponent 2 (floatLayout.exists_mem_write x)
    exact trim_ne_empty (c := c) (by rwa [toText, floatText, String.toList_ofList]) hblank
  | truth b =>
    cases b with
    | true => exact trim_ne_empty (c := 't') (by decide) (by decide)
    | false => exact trim_ne_empty (c := 'f') (by decide) (by decide)
  | text s => exact beq_eq_false_iff_ne.mp h

theorem Value.toInteger?_text_trim (s : String) :
    (Value.text (trim s)).toInteger? = (Value.text s).toInteger? := by
  simp only [toInteger?, toList_trim, trimChars_trimChars]

/-! ## Ids -/

namespace CoupletId

/-- A text is an id unless it is read as a number, and then it is not blank and has been trimmed. -/
theorem ofValue?_eq_some_text_iff {v : Value} {t : String} :
    ofValue? v = some (.text t) ↔
      ∃ s, v = .text s ∧ v.toInteger? = none ∧ v.isBlank = false ∧ trim s = t := by
  unfold ofValue?
  constructor
  · intro h
    split at h
    · cases h
    · next s hnone =>
      split at h
      · cases h
      · next hblank =>
        cases h
        exact ⟨s, rfl, hnone, by simpa using hblank, rfl⟩
    · cases h
  · rintro ⟨s, rfl, hnone, hblank, rfl⟩
    rw [hnone]
    simp [hblank]

theorem ofValue?_toValue_number (i : Int64) : ofValue? (number i).toValue = some (.number i) := rfl

theorem ofValue?_toValue {v : Value} {id : CoupletId} (h : ofValue? v = some id) :
    ofValue? id.toValue = some id := by
  cases id with
  | number i => exact ofValue?_toValue_number i
  | text t =>
    obtain ⟨s, rfl, hnone, hblank, rfl⟩ := ofValue?_eq_some_text_iff.mp h
    refine ofValue?_eq_some_text_iff.mpr ⟨trim s, rfl, ?_, ?_, trim_trim s⟩
    · exact (Value.toInteger?_text_trim s).trans hnone
    · simpa [Value.isBlank, toValue] using hblank

theorem isBlank_toValue {id : CoupletId} (h : ofValue? id.toValue = some id) :
    id.toValue.isBlank = false := by
  cases id with
  | number i => rfl
  | text t =>
    obtain ⟨_, -, -, hblank, -⟩ := ofValue?_eq_some_text_iff.mp h
    exact hblank

end CoupletId

end ClassificationKey
