import ClassificationKey.Proofs.Guard.Printer

/-!
# Guards within longer texts

A text that falls into tokens falls into the same ones where another text follows it, unless that
prolongs its last word (`Spells.append`). So a text that is read as a guard is read as the same guard in
parentheses, whatever it is joined with (`Writes.negated`, `Writes.joined`). Without parentheses two
texts with `or` between them are read as one chain of disjunctions (`Writes.exists_bareOr`).
-/

namespace ClassificationKey.Guard

open Text

/-! ## Texts one after the other -/

variable {cs rest : List Char} {ts us : List Token}

theorem Splits.append {ls ms : List Lexeme} (h : Splits cs ls)
    (hrest : ∀ c ∈ rest.head?, isWordChar c = false) (h' : Splits rest ms) :
    Splits (cs ++ rest) (ls ++ ms) := by
  induction h with
  | done => exact h'
  | separator blank _ ih => exact .separator blank ih
  | opening _ ih => exact .opening ih
  | closing _ ih => exact .closing ih
  | @word w cs _ ne_nil chars maximal _ ih =>
    rw [List.append_assoc]
    refine .word ne_nil chars ?_ ih
    -- after the word comes what came there before, or the second text
    cases cs with
    | nil => exact hrest
    | cons c cs => exact maximal

theorem Spells.append (h : Spells cs ts) (hrest : ∀ c ∈ rest.head?, isWordChar c = false)
    (h' : Spells rest us) : Spells (cs ++ rest) (ts ++ us) := by
  obtain ⟨ls, hsplits, hmeans⟩ := h
  obtain ⟨ms, hsplits', hmeans'⟩ := h'
  exact ⟨ls ++ ms, hsplits.append hrest hsplits', List.rel_append hmeans hmeans'⟩

theorem Spells.parenthesised (h : Spells cs ts) (h' : Spells rest us) :
    Spells ('(' :: (cs ++ ')' :: rest)) (.opening :: (ts ++ .closing :: us)) := by
  have hinner := h.append (by rintro c ⟨⟩; decide) h'.closing
  exact hinner.opening

/-! ## Chains of disjunctions -/

/-- The disjunction of `a` and `b`, the last operands of `b` being joined one by one to what comes
before them. -/
inductive Regrouped (a : Guard) : Guard → Guard → Prop where
  | whole (b : Guard) : Regrouped a b (a.or b)
  | apart {b g : Guard} (first : Regrouped a b g) (c : Guard) : Regrouped a (b.or c) (g.or c)

/-- Between two disjunctions `or` goes to the left: the first conjunction of the second one comes to
the first one, and the others follow. -/
theorem Reads.exists_or {a b : Guard} (left : Reads .disjunction ts a)
    (right : Reads .disjunction us b) :
    ∃ g, Reads .disjunction (ts ++ .or :: us) g ∧ Regrouped a b g := by
  generalize hl : Level.disjunction = l at right
  induction right with
  | conjunction h => exact ⟨_, .or left h, .whole _⟩
  | or _ last ih _ =>
    obtain ⟨g, hg, hfirst⟩ := ih hl
    rw [← List.cons_append, ← List.append_assoc]
    exact ⟨_, .or hg last, hfirst.apart _⟩
  | _ => cases hl

/-! ## Compound texts -/

/-- The text is trimmed, and is read as the guard. -/
structure Writes (s : String) (g : Guard) : Prop where
  trimmed : IsTrimmed s.toList
  ne_nil : s.toList ≠ []
  reads : ∃ ts, Spells s.toList ts ∧ Reads .disjunction ts g

theorem writes_trim {s : String} {g : Guard} (h : parse s = .ok g) : Writes (trim s) g := by
  obtain ⟨hne, hreads⟩ := parse_eq_ok_iff_reads.mp h
  refine ⟨?_, fun hnil => hne (String.toList_eq_nil_iff.mp hnil), hreads⟩
  rw [toList_trim]
  exact isTrimmed_trimChars s.toList

theorem Writes.parse_eq {s : String} {g : Guard} (h : Writes s g) : parse s = .ok g := by
  rw [parse_eq_ok_iff_reads, h.trimmed.trim_eq]
  exact ⟨fun hempty => h.ne_nil (String.toList_eq_nil_iff.mpr hempty), h.reads⟩

/-- A text between trimmed ones does not show at the ends. -/
theorem isTrimmed_append {front back : List Char} (hfront : IsTrimmed front) (hback : IsTrimmed back)
    (hne : front ≠ []) (hne' : back ≠ []) (between : List Char) :
    IsTrimmed (front ++ (between ++ back)) := by
  constructor
  · rw [List.head?_append_of_ne_nil _ hne]
    exact hfront.head
  · rw [List.getLast?_append_of_ne_nil _ (List.append_ne_nil_of_right_ne_nil _ hne'),
      List.getLast?_append_of_ne_nil _ hne']
    exact hback.last

/-- The negation of a text. -/
def notText (x : String) : String := "not (" ++ x ++ ")"

/-- Two texts in parentheses, with a word between them. -/
def joinText (word x y : String) : String := "(" ++ x ++ ") " ++ word ++ " (" ++ y ++ ")"

/-- Two texts as they stand, with `or` between them. -/
def bareOrText (x y : String) : String := x ++ " or " ++ y

namespace Writes

variable {x y : String} {a b : Guard}

theorem negated (h : Writes x a) : Writes (notText x) a.not := by
  obtain ⟨ts, hspells, hreads⟩ := h.reads
  have hinner := hspells.parenthesised (spells_nil_iff.mpr rfl)
  have hnot := Spells.keyword (by decide) (by decide) .not hinner
  have htext : (notText x).toList =
      "not".toList ++ ((" (".toList ++ x.toList) ++ ")".toList) := by
    simp [notText]
  refine ⟨?_, by simp [notText], _, by simpa [notText] using hnot,
    .conjunction (.factor (.not (.parenthesised hreads)))⟩
  rw [htext]
  exact isTrimmed_append (isTrimmed_of_all (by decide)) (isTrimmed_of_all (by decide))
    (by decide) (by decide) _

/-- Between parentheses the texts are terms, so the word makes of them what it makes of terms. -/
theorem joined {word : String} {t : Token} {g : Guard} (hne : word.toList ≠ [])
    (hword : word.toList.all isWordChar = true) (ht : Lexeme.Means (.word word.toList) t)
    (hg : ∀ ts us, Reads .term ts a → Reads .term us b → Reads .disjunction (ts ++ t :: us) g)
    (hx : Writes x a) (hy : Writes y b) : Writes (joinText word x y) g := by
  obtain ⟨ts, hts, ha⟩ := hx.reads
  obtain ⟨us, hus, hb⟩ := hy.reads
  have hright := hus.parenthesised (spells_nil_iff.mpr rfl)
  have hkeyword := Spells.keyword hne hword ht hright
  have hspells := hts.parenthesised hkeyword.space
  have htext : (joinText word x y).toList =
      "(".toList ++ ((x.toList ++ ") ".toList ++ word.toList ++ " (".toList ++ y.toList) ++
        ")".toList) := by
    simp [joinText]
  refine ⟨?_, by simp [joinText], _, ?_, hg _ _ (.parenthesised ha) (.parenthesised hb)⟩
  · rw [htext]
    exact isTrimmed_append (isTrimmed_of_all (by decide)) (isTrimmed_of_all (by decide))
      (by decide) (by decide) _
  · simpa [htext] using hspells

theorem conjoined (hx : Writes x a) (hy : Writes y b) :
    Writes (joinText "and" x y) (a.and b) :=
  hx.joined (by decide) (by decide) .and
    (fun _ _ ha hb => .conjunction (.and (.factor (.term ha)) (.term hb))) hy

theorem disjoined (hx : Writes x a) (hy : Writes y b) : Writes (joinText "or" x y) (a.or b) :=
  hx.joined (by decide) (by decide) .or
    (fun _ _ ha hb => .or (.conjunction (.factor (.term ha))) (.factor (.term hb))) hy

theorem exists_bareOr (hx : Writes x a) (hy : Writes y b) :
    ∃ g, Writes (bareOrText x y) g ∧ Regrouped a b g := by
  obtain ⟨ts, hts, ha⟩ := hx.reads
  obtain ⟨us, hus, hb⟩ := hy.reads
  obtain ⟨g, hreads, hg⟩ := ha.exists_or hb
  have hor := Spells.keyword (by decide) (by decide) .or hus
  have hspells : Spells (x.toList ++ ' ' :: (['o', 'r'] ++ ' ' :: y.toList)) (ts ++ .or :: us) :=
    hts.append (by rintro c ⟨⟩; decide) hor.space
  have htext : (bareOrText x y).toList = x.toList ++ (" or ".toList ++ y.toList) := by
    simp [bareOrText]
  refine ⟨g, ⟨?_, by simp [bareOrText], _, by simpa [htext] using hspells, hreads⟩, hg⟩
  rw [htext]
  exact isTrimmed_append hx.trimmed hy.trimmed hx.ne_nil hy.ne_nil _

end Writes

end ClassificationKey.Guard
