import ClassificationKey.Guard.Token
import Mathlib.Data.List.Forall2
import Mathlib.Data.Nat.Digits.Defs

/-!
# The texts that tokens have

`Splits` says how a text falls into words and parentheses, with nothing but separators between them;
words are maximal. `Means` says which token a piece of the text is. The scanner returns a row of
tokens exactly when the text falls into pieces that mean them (`scan?_eq_some_iff`).
-/

namespace ClassificationKey.Guard

open Text

/-! ## Pieces -/

/-- A piece of a guard's text. -/
inductive Lexeme where
  | opening
  | closing
  | word (cs : List Char)

/-- The text falls into the pieces: into parentheses and maximal words, with separators between. -/
inductive Splits : List Char → List Lexeme → Prop where
  | done : Splits [] []
  | separator {c : Char} {cs : List Char} {ls : List Lexeme} (blank : isSeparator c = true)
      (rest : Splits cs ls) : Splits (c :: cs) ls
  | opening {cs : List Char} {ls : List Lexeme} (rest : Splits cs ls) :
      Splits ('(' :: cs) (.opening :: ls)
  | closing {cs : List Char} {ls : List Lexeme} (rest : Splits cs ls) :
      Splits (')' :: cs) (.closing :: ls)
  | word {w cs : List Char} {ls : List Lexeme} (ne_nil : w ≠ [])
      (chars : ∀ c ∈ w, isWordChar c = true) (maximal : ∀ c ∈ cs.head?, isWordChar c = false)
      (rest : Splits cs ls) : Splits (w ++ cs) (.word w :: ls)

/-- The word writes the number in decimal digits, with no leading zero unless all of them are. -/
structure IsNumeral (w : List Char) (n : Nat) : Prop where
  ne_nil : w ≠ []
  digits : ∀ c ∈ w, c.isDigit = true
  canonical : w.head? = some '0' → ∀ c ∈ w, c = '0'
  value : n = Nat.ofDigits 10 (w.reverse.map fun c => c.toNat - '0'.toNat)

/-- What a piece means as a token. A numeral that does not fit a `RuleId` means none. -/
inductive Lexeme.Means : Lexeme → Token → Prop where
  | opening : Means .opening .opening
  | closing : Means .closing .closing
  | and : Means (.word ['a', 'n', 'd']) .and
  | or : Means (.word ['o', 'r']) .or
  | not : Means (.word ['n', 'o', 't']) .not
  | rule {w : List Char} {id : RuleId} (numeral : IsNumeral w id.toNat) : Means (.word w) (.rule id)

/-- The text is one of the row of tokens. -/
def Spells (cs : List Char) (ts : List Token) : Prop :=
  ∃ ls, Splits cs ls ∧ List.Forall₂ Lexeme.Means ls ts

/-! ## Words -/

theorem digitsValue_eq_ofDigits (w : List Char) :
    Number.digitsValue w = Nat.ofDigits 10 (w.reverse.map fun c => c.toNat - '0'.toNat) := by
  rw [Number.digitsValue, Nat.ofDigits_eq_foldr, List.foldr_map, List.foldr_reverse]
  congr 1
  funext n c
  exact Nat.add_comm _ _

theorem ruleId?_eq_some_iff {w : List Char} {id : RuleId} :
    ruleId? w = some id ↔ IsNumeral w id.toNat := by
  unfold ruleId?
  simp only [Option.ite_none_right_eq_some, Bool.and_eq_true, Bool.or_eq_true, decide_eq_true_eq,
    List.all_eq_true, bne_iff_ne, beq_iff_eq, digitsValue_eq_ofDigits]
  constructor
  · rintro ⟨⟨⟨⟨hne, hdigits⟩, hcanonical⟩, hsize⟩, hid⟩
    cases hid
    refine ⟨hne, hdigits, fun hzero => hcanonical.resolve_left (absurd hzero), ?_⟩
    exact UInt32.toNat_ofNat_of_lt' hsize
  · intro h
    refine ⟨⟨⟨⟨h.ne_nil, h.digits⟩, Decidable.or_iff_not_imp_left.mpr ?_⟩, ?_⟩, ?_⟩
    · exact fun hzero => h.canonical (Decidable.not_not.mp hzero)
    · exact h.value ▸ id.toNat_lt
    · exact congrArg some (by rw [← h.value, UInt32.ofNat_toNat])

theorem IsNumeral.head_isDigit {c : Char} {w : List Char} {n : Nat} (h : IsNumeral (c :: w) n) :
    c.isDigit = true := h.digits c List.mem_cons_self

theorem ofWord?_eq_some_iff {w : List Char} {t : Token} :
    Token.ofWord? w = some t ↔ Lexeme.Means (.word w) t := by
  unfold Token.ofWord?
  constructor
  · intro h
    split_ifs at h with hand hor hnot
    · cases h
      exact hand ▸ .and
    · cases h
      exact hor ▸ .or
    · cases h
      exact hnot ▸ .not
    · obtain ⟨id, hid, rfl⟩ := Option.map_eq_some_iff.mp h
      exact .rule (ruleId?_eq_some_iff.mp hid)
  · intro h
    cases h with
    | and => rfl
    | or => rfl
    | not => rfl
    | rule numeral =>
      -- the letters of a keyword are no digits
      rw [if_neg, if_neg, if_neg, ruleId?_eq_some_iff.mpr numeral]
      · rfl
      all_goals
        rintro rfl
        exact absurd numeral.head_isDigit (by decide)

/-! ## Splitting -/

theorem isWordChar_of_isSeparator {c : Char} (h : isSeparator c = true) : isWordChar c = false := by
  simp only [isSeparator, Bool.or_eq_true, beq_iff_eq] at h
  rcases h with (((rfl | rfl) | rfl) | rfl) | rfl <;> decide

/-- A word that no word character follows is the maximal one. -/
theorem takeWhile_isWordChar {w cs : List Char} (hw : ∀ c ∈ w, isWordChar c = true)
    (hcs : ∀ c ∈ cs.head?, isWordChar c = false) : (w ++ cs).takeWhile isWordChar = w := by
  rw [List.takeWhile_append_of_pos hw]
  cases cs with
  | nil => simp
  | cons c cs => simp [hcs c rfl]

theorem splits_nil_iff {ls : List Lexeme} : Splits [] ls ↔ ls = [] := by
  constructor
  · intro h
    generalize hs : ([] : List Char) = s at h
    cases h with
    | done => rfl
    | word ne_nil _ _ _ => exact absurd (List.append_eq_nil_iff.mp hs.symm).1 ne_nil
    | _ => cases hs
  · rintro rfl
    exact .done

/-- What stands at the head of a text that starts with no word. -/
theorem splits_cons_iff {c : Char} {cs : List Char} {ls : List Lexeme} (hc : isWordChar c = false) :
    Splits (c :: cs) ls ↔ (isSeparator c = true ∧ Splits cs ls) ∨
      (c = '(' ∧ ∃ rest, ls = .opening :: rest ∧ Splits cs rest) ∨
      (c = ')' ∧ ∃ rest, ls = .closing :: rest ∧ Splits cs rest) := by
  constructor
  · intro h
    generalize hs : c :: cs = s at h
    cases h with
    | done => cases hs
    | separator blank rest =>
      cases hs
      exact .inl ⟨blank, rest⟩
    | opening rest =>
      cases hs
      exact .inr (.inl ⟨rfl, _, rfl, rest⟩)
    | closing rest =>
      cases hs
      exact .inr (.inr ⟨rfl, _, rfl, rest⟩)
    | @word w cs' ls ne_nil chars maximal rest =>
      cases w with
      | nil => exact absurd rfl ne_nil
      | cons d w =>
        cases hs
        rw [chars c List.mem_cons_self] at hc
        cases hc
  · rintro (⟨hblank, h⟩ | ⟨rfl, rest, rfl, h⟩ | ⟨rfl, rest, rfl, h⟩)
    · exact .separator hblank h
    · exact .opening h
    · exact .closing h

theorem splits_word_append_iff {w cs : List Char} {ls : List Lexeme} (hne : w ≠ [])
    (hw : ∀ c ∈ w, isWordChar c = true) (hcs : ∀ c ∈ cs.head?, isWordChar c = false) :
    Splits (w ++ cs) ls ↔ ∃ rest, ls = .word w :: rest ∧ Splits cs rest := by
  constructor
  · intro h
    obtain ⟨d, w', rfl⟩ := List.exists_cons_of_ne_nil hne
    have hd : isWordChar d = true := hw d List.mem_cons_self
    generalize hs : d :: w' ++ cs = s at h
    cases h with
    | done => cases hs
    | separator blank _ =>
      cases hs
      rw [isWordChar_of_isSeparator blank] at hd
      cases hd
    | opening _ =>
      cases hs
      exact absurd hd (by decide)
    | closing _ =>
      cases hs
      exact absurd hd (by decide)
    | word _ chars maximal rest =>
      have hword := congrArg (List.takeWhile isWordChar) hs
      rw [takeWhile_isWordChar hw hcs, takeWhile_isWordChar chars maximal] at hword
      subst hword
      exact ⟨_, rfl, List.append_cancel_left hs ▸ rest⟩
  · rintro ⟨rest, rfl, h⟩
    exact .word hne hw hcs h

/-! ## Scanning -/

theorem spells_nil_iff {ts : List Token} : Spells [] ts ↔ ts = [] := by
  simp [Spells, splits_nil_iff]

/-- Where a text can only split with one piece at its head, its tokens start with one for the piece. -/
theorem spells_iff_of_splits_iff {s cs : List Char} {l : Lexeme} {ts : List Token}
    (h : ∀ ls, Splits s ls ↔ ∃ rest, ls = l :: rest ∧ Splits cs rest) :
    Spells s ts ↔ ∃ us, Spells cs us ∧ ∃ t, l.Means t ∧ t :: us = ts := by
  constructor
  · rintro ⟨ls, hsplits, hmeans⟩
    obtain ⟨rest, rfl, hrest⟩ := (h ls).mp hsplits
    obtain ⟨t, us, ht, hus, rfl⟩ := List.forall₂_cons_left_iff.mp hmeans
    exact ⟨us, ⟨rest, hrest, hus⟩, t, ht, rfl⟩
  · rintro ⟨us, ⟨rest, hrest, hus⟩, t, ht, rfl⟩
    exact ⟨l :: rest, (h _).mpr ⟨rest, rfl, hrest⟩, .cons ht hus⟩

theorem spells_separator_iff {c : Char} {cs : List Char} {ts : List Token}
    (hc : isSeparator c = true) : Spells (c :: cs) ts ↔ Spells cs ts := by
  have hopening : c ≠ '(' := fun h => absurd (h ▸ hc) (by decide)
  have hclosing : c ≠ ')' := fun h => absurd (h ▸ hc) (by decide)
  simp [Spells, splits_cons_iff (isWordChar_of_isSeparator hc), hc, hopening, hclosing]

theorem means_opening_iff {t : Token} : Lexeme.Means .opening t ↔ t = .opening := by
  constructor
  · rintro ⟨⟩
    rfl
  · rintro rfl
    exact .opening

theorem means_closing_iff {t : Token} : Lexeme.Means .closing t ↔ t = .closing := by
  constructor
  · rintro ⟨⟩
    rfl
  · rintro rfl
    exact .closing

theorem spells_opening_iff {cs : List Char} {ts : List Token} :
    Spells ('(' :: cs) ts ↔ ∃ us, Spells cs us ∧ .opening :: us = ts := by
  have hsplits (ls : List Lexeme) :
      Splits ('(' :: cs) ls ↔ ∃ rest, ls = .opening :: rest ∧ Splits cs rest := by
    rw [splits_cons_iff (by decide)]
    simp [show isSeparator '(' = false by decide]
  simp [spells_iff_of_splits_iff hsplits, means_opening_iff]

theorem spells_closing_iff {cs : List Char} {ts : List Token} :
    Spells (')' :: cs) ts ↔ ∃ us, Spells cs us ∧ .closing :: us = ts := by
  have hsplits (ls : List Lexeme) :
      Splits (')' :: cs) ls ↔ ∃ rest, ls = .closing :: rest ∧ Splits cs rest := by
    rw [splits_cons_iff (by decide)]
    simp [show isSeparator ')' = false by decide]
  simp [spells_iff_of_splits_iff hsplits, means_closing_iff]

/-- No other character starts a text that has tokens. -/
theorem not_spells_cons {c : Char} {cs : List Char} {ts : List Token} (hword : isWordChar c = false)
    (hblank : ¬ isSeparator c = true) (hopening : c ≠ '(') (hclosing : c ≠ ')') :
    ¬ Spells (c :: cs) ts := by
  simp [Spells, splits_cons_iff hword, hblank, hopening, hclosing]

/-- The word under way is complete where no word character follows. -/
theorem spells_reverse_append_iff {word cs : List Char} {ts : List Token}
    (hword : ∀ c ∈ word, isWordChar c = true) (hcs : ∀ c ∈ cs.head?, isWordChar c = false) :
    Spells (word.reverse ++ cs) ts ↔ ∃ us, Spells cs us ∧ Token.close word us = some ts := by
  unfold Token.close
  by_cases hne : word = []
  · simp [hne]
  · have hsplits (ls : List Lexeme) : Splits (word.reverse ++ cs) ls ↔
        ∃ rest, ls = .word word.reverse :: rest ∧ Splits cs rest :=
      splits_word_append_iff (mt List.reverse_eq_nil_iff.mp hne)
        (fun c hc => hword c (List.mem_reverse.mp hc)) hcs
    rw [spells_iff_of_splits_iff hsplits]
    simp only [if_neg hne, Option.map_eq_some_iff, ofWord?_eq_some_iff]

/-- The scanner with a word under way returns the tokens of the word and the text together. -/
theorem scanFrom_eq_some_iff {word cs : List Char} {ts : List Token}
    (hword : ∀ c ∈ word, isWordChar c = true) :
    Token.scanFrom word cs = some ts ↔ Spells (word.reverse ++ cs) ts := by
  induction cs generalizing word ts with
  | nil =>
    rw [spells_reverse_append_iff hword (by simp), Token.scanFrom]
    simp [spells_nil_iff]
  | cons c cs ih =>
    rw [Token.scanFrom]
    cases hc : isWordChar c with
    | true =>
      rw [if_pos rfl, ih (List.forall_mem_cons.mpr ⟨hc, hword⟩), List.reverse_cons,
        List.append_assoc, List.singleton_append]
    | false =>
      rw [if_neg Bool.false_ne_true, spells_reverse_append_iff hword (by simpa using hc)]
      have hrest (us : List Token) : Token.scanFrom [] cs = some us ↔ Spells cs us :=
        ih (List.forall_mem_nil _)
      split_ifs with hblank hopening hclosing
      · simp [Option.bind_eq_some_iff, hrest, spells_separator_iff hblank]
      · subst hopening
        simp [Option.bind_eq_some_iff, hrest, spells_opening_iff]
      · subst hclosing
        simp [Option.bind_eq_some_iff, hrest, spells_closing_iff]
      · simp [not_spells_cons hc hblank hopening hclosing]

/-- The scanner returns the tokens of a text, if it has any. -/
theorem scan?_eq_some_iff {cs : List Char} {ts : List Token} :
    Token.scan? cs = some ts ↔ Spells cs ts :=
  scanFrom_eq_some_iff (List.forall_mem_nil _)

/-- No text is that of two rows of tokens. -/
theorem Spells.unique {cs : List Char} {ts us : List Token} (hts : Spells cs ts)
    (hus : Spells cs us) : ts = us := by
  rw [← scan?_eq_some_iff] at hts hus
  exact Option.some.inj (hts.symm.trans hus)

end ClassificationKey.Guard
