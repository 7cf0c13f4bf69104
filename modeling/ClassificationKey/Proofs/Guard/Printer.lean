import ClassificationKey.Guard.Printer
import ClassificationKey.Proofs.Guard.Parser
import ClassificationKey.Proofs.Text.Trim

/-!
# Guards that are written and read back

`tokens` is the row of tokens that the text of a guard falls into, whatever follows it that does not
prolong its last word (`spells_render_append`). The grammar gives that row back its tree, a negation
being a factor and every other guard a term (`reads_tokens`). The text neither starts nor ends with
a blank, so reading it yields the guard (`parse_render`).
-/

namespace ClassificationKey.Guard

open Text

/-- The tokens that the text of a guard falls into. -/
def tokens : Guard → List Token
  | .rule id => [.rule id]
  | .not (.not g) => .not :: (.opening :: tokens (.not g) ++ [.closing])
  | .not g => .not :: tokens g
  | .and a b => .opening :: (tokens a ++ .and :: tokens b) ++ [.closing]
  | .or a b => .opening :: (tokens a ++ .or :: tokens b) ++ [.closing]

/-- The level of the text of a guard: only a negation stands without parentheses. -/
def level : Guard → Level
  | .not _ => .factor
  | _ => .term

/-! ## The tree of the tokens -/

theorem Reads.factor_of_level {g : Guard} {ts : List Token} (h : Reads g.level ts g) :
    Reads .factor ts g := by
  cases g with
  | not g => exact h
  | _ => exact .term h

theorem reads_tokens (g : Guard) : Reads g.level (tokens g) g := by
  fun_induction tokens g with
  | case1 id => exact .rule id
  | case2 g ih => exact .not (.parenthesised (.conjunction (.factor ih.factor_of_level)))
  | case3 g hnot ih =>
    have hlevel : g.level = .term := by
      cases g with
      | not g => exact absurd rfl (hnot g)
      | _ => rfl
    rw [hlevel] at ih
    exact .not ih
  | case4 a b iha ihb =>
    exact .parenthesised (.conjunction (.and (.factor iha.factor_of_level) ihb.factor_of_level))
  | case5 a b iha ihb =>
    exact .parenthesised
      (.or (.conjunction (.factor iha.factor_of_level)) (.factor ihb.factor_of_level))

/-! ## The tokens of the text -/

/-- Only the digits of zero start with a zero. -/
theorem eq_zero_of_head?_toDigits {n : Nat} (h : (Nat.toDigits 10 n).head? = some '0') : n = 0 := by
  induction n using Nat.strongRecOn with
  | ind n ih =>
    rcases Nat.lt_or_ge n 10 with hn | hn
    · rw [Nat.toDigits_of_lt_base hn] at h
      exact Nat.digitChar_eq_zero.mp (Option.some.inj h)
    · rw [Nat.toDigits_of_base_le (by decide) hn,
        List.head?_append_of_ne_nil _ Nat.toDigits_ne_nil] at h
      have hzero := ih (n / 10) (by omega) h
      omega

theorem isNumeral_toDigits (n : Nat) : IsNumeral (Nat.toDigits 10 n) n where
  ne_nil := Nat.toDigits_ne_nil
  digits := fun c hc => Nat.isDigit_of_mem_toDigits (by decide) (by decide) hc
  canonical := by
    intro hhead c hc
    rw [eq_zero_of_head?_toDigits hhead, Nat.toDigits_zero] at hc
    exact List.mem_singleton.mp hc
  value := by
    rw [← digitsValue_eq_ofDigits, Number.digitsValue, ← Nat.ofDigitChars_eq_foldl,
      Nat.ofDigitChars_ten_toDigits]

theorem isWordChar_of_isDigit {c : Char} (h : c.isDigit = true) : isWordChar c = true := by
  have halphanum : c.isAlphanum = true := by simp [Char.isAlphanum, h]
  simp [isWordChar, isAlphanumeric_of_isAlphanum halphanum]

variable {rest : List Char} {ts : List Token}

theorem Spells.word {w : List Char} {t : Token} (hne : w ≠ [])
    (hw : ∀ c ∈ w, isWordChar c = true) (hrest : ∀ c ∈ rest.head?, isWordChar c = false)
    (ht : Lexeme.Means (.word w) t) (h : Spells rest ts) : Spells (w ++ rest) (t :: ts) := by
  obtain ⟨ls, hsplits, hmeans⟩ := h
  exact ⟨.word w :: ls, .word hne hw hrest hsplits, .cons ht hmeans⟩

theorem Spells.opening (h : Spells rest ts) : Spells ('(' :: rest) (.opening :: ts) :=
  spells_opening_iff.mpr ⟨ts, h, rfl⟩

theorem Spells.closing (h : Spells rest ts) : Spells (')' :: rest) (.closing :: ts) :=
  spells_closing_iff.mpr ⟨ts, h, rfl⟩

theorem Spells.space (h : Spells rest ts) : Spells (' ' :: rest) ts :=
  (spells_separator_iff (by decide)).mpr h

/-- A number is a word of its own where no word character follows. -/
theorem Spells.rule (id : RuleId) (hrest : ∀ c ∈ rest.head?, isWordChar c = false)
    (h : Spells rest ts) : Spells ((toString id.toNat).toList ++ rest) (.rule id :: ts) := by
  have hnumeral := isNumeral_toDigits id.toNat
  rw [toList_toString]
  exact .word hnumeral.ne_nil (fun c hc => isWordChar_of_isDigit (hnumeral.digits c hc)) hrest
    (.rule hnumeral) h

/-- A keyword is a word of its own between blanks. -/
theorem Spells.keyword {w : List Char} {t : Token} (hne : w ≠ []) (hw : w.all isWordChar = true)
    (ht : Lexeme.Means (.word w) t) (h : Spells rest ts) :
    Spells (w ++ ' ' :: rest) (t :: ts) := by
  refine .word hne (List.all_eq_true.mp hw) ?_ ht h.space
  rintro c ⟨⟩
  decide

/-- The text of a guard falls into its tokens, whatever follows it, unless its last word goes on. -/
theorem spells_render_append (g : Guard) (hrest : ∀ c ∈ rest.head?, isWordChar c = false)
    (h : Spells rest ts) : Spells ((render g).toList ++ rest) (tokens g ++ ts) := by
  fun_induction render g generalizing rest ts with
  | case1 id => exact .rule id hrest h
  | case2 g ih =>
    have hinner := ih (by rintro c ⟨⟩; decide) h.closing
    have hnot := Spells.keyword (by decide) (by decide) .not hinner.opening
    simpa [tokens] using hnot
  | case3 g hnot ih =>
    have hoperand := Spells.keyword (by decide) (by decide) .not (ih hrest h)
    simpa [tokens] using hoperand
  | case4 a b iha ihb =>
    have hright := ihb (by rintro c ⟨⟩; decide) h.closing
    have hand := Spells.keyword (by decide) (by decide) .and hright
    have hleft := iha (by rintro c ⟨⟩; decide) hand.space
    simpa [tokens] using hleft.opening
  | case5 a b iha ihb =>
    have hright := ihb (by rintro c ⟨⟩; decide) h.closing
    have hor := Spells.keyword (by decide) (by decide) .or hright
    have hleft := iha (by rintro c ⟨⟩; decide) hor.space
    simpa [tokens] using hleft.opening

/-! ## Reading back -/

theorem isTrimmed_render (g : Guard) : IsTrimmed (render g).toList := by
  obtain ⟨c, hhead, hc⟩ := exists_head?_render g
  obtain ⟨d, hlast, hd⟩ := exists_getLast?_render g
  constructor
  · rw [hhead]
    rintro _ ⟨⟩
    exact hc
  · rw [hlast]
    rintro _ ⟨⟩
    exact hd

/-- A guard that is written and read is the same guard. -/
theorem parse_render (g : Guard) : parse (render g) = .ok g := by
  have hspells : Spells (render g).toList (tokens g) := by
    have h : Spells ((render g).toList ++ []) (tokens g ++ []) :=
      spells_render_append g nofun (spells_nil_iff.mpr rfl)
    rwa [List.append_nil, List.append_nil] at h
  have hne : render g ≠ "" := by
    intro hempty
    obtain ⟨c, hhead, -⟩ := exists_head?_render g
    rw [hempty] at hhead
    cases hhead
  rw [parse_eq_ok_iff_reads, (isTrimmed_render g).trim_eq]
  exact ⟨hne, tokens g, hspells, .conjunction (.factor (reads_tokens g).factor_of_level)⟩

end ClassificationKey.Guard
