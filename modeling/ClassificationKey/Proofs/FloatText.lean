import ClassificationKey.Proofs.Number.Layout
import ClassificationKey.Proofs.Text.Upper
import ClassificationKey.Rule

/-!
# The text form of a double

The text form of a finite double is what its layout writes, the exponent rewritten. It still is a
numeral of the same decimal, trimming and upper-casing leave it one, and so it is read as the double
that it was written for (`Value.toText_float_spec`).
-/

namespace ClassificationKey

open Number Text

namespace Number

/-- No exponent, or one with a sign and at least so many digits. -/
def HasSignedExponent (width : Nat) (cs : List Char) : Prop :=
  (∀ c ∈ cs, c ≠ 'e' ∧ c ≠ 'E') ∨
    ∃ front sign ds, cs = front ++ 'e' :: sign :: ds ∧ (∀ c ∈ front, c ≠ 'e' ∧ c ≠ 'E') ∧
      (sign = '+' ∨ sign = '-') ∧ width ≤ ds.length ∧ ∀ c ∈ ds, c.isDigit = true

/-- The characters of numerals, but for the mark of the exponent. -/
def IsNumeric (c : Char) : Prop := c.isDigit = true ∨ c = '-' ∨ c = '+' ∨ c = '.'

theorem isBlank_of_isNumeric {c : Char} (h : IsNumeric c) : isBlank c = false := by
  rcases h with h | rfl | rfl | rfl
  · exact isBlank_of_isDigit h
  · decide
  · decide
  · decide

theorem upperChar_of_isNumeric {c : Char} (h : IsNumeric c) : upperChar c = [c] := by
  rcases h with h | rfl | rfl | rfl
  · have hranges : (decide (48 ≤ c.val) && decide (c.val ≤ 57)) = true := h
    rw [Bool.and_eq_true, decide_eq_true_eq, decide_eq_true_eq, UInt32.le_iff_toNat_le,
      UInt32.le_iff_toNat_le] at hranges
    have hlast : c.toNat ≤ 57 := hranges.2
    have hlower : c.toNat ∉ List.range' 97 26 := by
      rw [List.mem_range'_1]
      omega
    rw [upperChar, if_pos (by omega), toUpper_of_not_mem hlower]
  · decide
  · decide
  · decide

theorem flatMap_upperChar_of_isNumeric {cs : List Char} (h : ∀ c ∈ cs, IsNumeric c) :
    cs.flatMap upperChar = cs :=
  calc cs.flatMap upperChar = cs.flatMap fun c => [c] :=
        List.flatMap_congr fun c hc => upperChar_of_isNumeric (h c hc)
    _ = cs := List.flatMap_singleton' _

theorem isNumeric_of_mem_signedExponent {width : Nat} {e : Int} {c : Char}
    (h : c ∈ signedExponent width e) : IsNumeric c := by
  rcases List.mem_cons.mp h with rfl | hdigit
  · split
    · exact .inr (.inl rfl)
    · exact .inr (.inr (.inl rfl))
  · exact .inl (isDigit_of_mem_padLeft hdigit)

namespace Spelling

variable (s : Spelling) (width : Nat)

theorem isNumeric_of_mem_front {c : Char} (h : c ∈ s.front) : IsNumeric c :=
  (s.mem_front h).imp_right fun h => h.imp_right .inr

theorem hasSignedExponent_signed : HasSignedExponent width (s.signed 'e' width) := by
  have hfront : ∀ c ∈ s.front, c ≠ 'e' ∧ c ≠ 'E' := by
    intro c hc
    constructor
    · rintro rfl
      exact s.not_mem_front (by decide) (by decide) (by decide) hc
    · rintro rfl
      exact s.not_mem_front (by decide) (by decide) (by decide) hc
  rw [signed, text]
  cases s.exponent with
  | none => exact .inl (by rwa [Option.elim_none, List.append_nil])
  | some e =>
    refine .inr ⟨s.front, if e < 0 then '-' else '+', padLeft width (Nat.toDigits 10 e.natAbs), rfl,
      hfront, ?_, le_length_padLeft _ _, fun c hc => isDigit_of_mem_padLeft hc⟩
    split
    · exact .inr rfl
    · exact .inl rfl

theorem isTrimmed_signed : IsTrimmed (s.signed 'e' width) := by
  refine isTrimmed_of_all (List.all_eq_true.mpr fun c hc => ?_)
  rw [Bool.not_eq_true']
  rcases List.mem_append.mp hc with hfront | hexponent
  · exact isBlank_of_isNumeric (s.isNumeric_of_mem_front hfront)
  · cases hs : s.exponent with
    | none => simp [hs] at hexponent
    | some e =>
      rw [hs, Option.elim_some] at hexponent
      rcases List.mem_cons.mp hexponent with rfl | hmem
      · decide
      · exact isBlank_of_isNumeric (isNumeric_of_mem_signedExponent hmem)

/-- Upper-casing changes the mark only. -/
theorem flatMap_upperChar_signed :
    (s.signed 'e' width).flatMap upperChar = s.signed 'E' width := by
  have hfront := flatMap_upperChar_of_isNumeric fun c => s.isNumeric_of_mem_front
  rw [signed, signed, text, text, List.flatMap_append, hfront]
  cases s.exponent with
  | none => rfl
  | some e =>
    have hexponent : (signedExponent width e).flatMap upperChar = signedExponent width e :=
      flatMap_upperChar_of_isNumeric fun _ => isNumeric_of_mem_signedExponent
    rw [Option.elim_some, Option.elim_some, List.flatMap_cons, hexponent]
    rfl

end Spelling

end Number

namespace Value

theorem exists_spelling {x : Binary64} (hx : x.isFinite = true) :
    ∃ s : Spelling, (floatLayout.write x).toList = s.plain ∧ s.decimal.toBinary64 = x ∧
      (Value.float x).toText.toList = s.signed 'e' 2 := by
  obtain ⟨s, hplain, hread⟩ := floatLayout.exists_spelling hx
  refine ⟨s, hplain, hread, ?_⟩
  rw [toText, floatText, String.toList_ofList, hplain, s.signExponent_plain]

/-- Rewriting the exponent in the text of a finite double does not change the number. The text is a
numeral that is read as the double; with the exponent rewritten it denotes the same rational, and what
exponent it has is signed and of two digits at least. Trimmed and upper-cased, as rules compare it, it
is read as the double still, and its integer form is that of the double. -/
theorem toText_float_spec {x : Binary64} (hx : x.isFinite = true) :
    ∃ d : Decimal,
      readNumeral? (floatLayout.write x).toList = some (.decimal d) ∧ d.toBinary64 = x ∧
        numeralValue? (Value.float x).toText.toList = some d.toRat ∧
        HasSignedExponent 2 (Value.float x).toText.toList ∧
        Rule.number? (upper (trim (Value.float x).toText)) = some x ∧
        (Value.text (Value.float x).toText).toInteger? = (Value.float x).toInteger? := by
  obtain ⟨s, hplain, hread, htext⟩ := exists_spelling hx
  have htrimmed : IsTrimmed (Value.float x).toText.toList := htext ▸ s.isTrimmed_signed 2
  have hnumeral : ∀ mark : Char, mark = 'e' ∨ mark = 'E' →
      readNumeral? (s.signed mark 2) = some (.decimal s.decimal) := fun mark hmark =>
    s.readNumeral?_text fun e => readExponent?_signedExponent hmark 2 e
  refine ⟨s.decimal, ?_, hread, ?_, ?_, ?_, ?_⟩
  · rw [hplain]
    exact s.readNumeral?_text fun e => readExponent?_exponent (.inl rfl) e
  · rw [htext, numeralValue?, hnumeral 'e' (.inl rfl)]
    rfl
  · rw [htext]
    exact s.hasSignedExponent_signed 2
  · have hupper : (upper (Value.float x).toText).toList = s.signed 'E' 2 := by
      rw [toList_upper, htext, s.flatMap_upperChar_signed]
    rw [htrimmed.trim_eq, Rule.number?, htrimmed.upper.trimChars_eq, hupper, readBinary64?,
      hnumeral 'E' (.inr rfl)]
    exact congrArg some hread
  · have hinteger : readInteger? (s.signed 'e' 2) = none :=
      s.readInteger?_text fun e => ⟨'e', List.mem_cons_self, by decide⟩
    unfold toInteger?
    dsimp only
    rw [htrimmed.trimChars_eq, htext, hinteger, readBinary64?, hnumeral 'e' (.inl rfl)]
    exact congrArg wholeNumber? hread

/-- A number that is written with an exponent of one digit. -/
def quarterMicro : Binary64 := (⟨true, 25, -8⟩ : Decimal).toBinary64

theorem toText_float_quarterMicro :
    (floatLayout.write quarterMicro = "-2.5e-7" ∧ (Value.float quarterMicro).toText = "-2.5e-07" ∧
      upper (trim (Value.float quarterMicro).toText) = "-2.5E-07") ∧
      ∃ d : Decimal,
        readNumeral? (floatLayout.write quarterMicro).toList = some (.decimal d) ∧
          d.toBinary64 = quarterMicro ∧
          numeralValue? (Value.float quarterMicro).toText.toList = some d.toRat ∧
          Rule.number? (upper (trim (Value.float quarterMicro).toText)) = some quarterMicro := by
  have hfinite : quarterMicro.isFinite = true := by decide +kernel
  obtain ⟨d, hplain, hread, hvalue, -, hnumber, -⟩ := toText_float_spec hfinite
  exact ⟨⟨by decide +kernel, by decide +kernel, by decide +kernel⟩, d, hplain, hread, hvalue,
    hnumber⟩

end Value

end ClassificationKey
