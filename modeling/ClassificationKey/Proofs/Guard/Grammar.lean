import ClassificationKey.Guard.Token

/-!
# The grammar of guards

`Phrase` is the grammar that guards are described by, where `and` and `or` stand side by side. `Reads`
is the grammar that gives them their trees: a disjunction of conjunctions, both to the left, of terms
that may be negated. They have the same rows of tokens (`exists_reads_iff`).
-/

namespace ClassificationKey.Guard

/-! ## Phrases -/

/-- The symbols of the grammar of phrases. -/
inductive Symbol where
  | expression
  | negatable
  | term

/-- `expression := negatable (("and" | "or") negatable)*`, `negatable := ["not"] term` and
`term := numeral | "(" expression ")"`. -/
inductive Phrase : Symbol → List Token → Prop where
  | single {ts : List Token} (first : Phrase .negatable ts) : Phrase .expression ts
  | join {op : Token} {ts us : List Token} (operator : op = .and ∨ op = .or)
      (left : Phrase .expression ts) (right : Phrase .negatable us) :
      Phrase .expression (ts ++ op :: us)
  | plain {ts : List Token} (operand : Phrase .term ts) : Phrase .negatable ts
  | not {ts : List Token} (operand : Phrase .term ts) : Phrase .negatable (.not :: ts)
  | numeral (id : RuleId) : Phrase .term [.rule id]
  | parenthesised {ts : List Token} (inner : Phrase .expression ts) :
      Phrase .term (.opening :: ts ++ [.closing])

/-! ## Trees -/

/-- How tightly an expression binds. -/
inductive Level where
  | disjunction
  | conjunction
  | factor
  | term

/-- The row of tokens writes the guard, as an expression of the level. -/
inductive Reads : Level → List Token → Guard → Prop where
  | conjunction {ts : List Token} {g : Guard} (h : Reads .conjunction ts g) :
      Reads .disjunction ts g
  | or {ts us : List Token} {a b : Guard} (left : Reads .disjunction ts a)
      (right : Reads .conjunction us b) : Reads .disjunction (ts ++ .or :: us) (.or a b)
  | factor {ts : List Token} {g : Guard} (h : Reads .factor ts g) : Reads .conjunction ts g
  | and {ts us : List Token} {a b : Guard} (left : Reads .conjunction ts a)
      (right : Reads .factor us b) : Reads .conjunction (ts ++ .and :: us) (.and a b)
  | term {ts : List Token} {g : Guard} (h : Reads .term ts g) : Reads .factor ts g
  | not {ts : List Token} {g : Guard} (h : Reads .term ts g) : Reads .factor (.not :: ts) (.not g)
  | rule (id : RuleId) : Reads .term [.rule id] (.rule id)
  | parenthesised {ts : List Token} {g : Guard} (h : Reads .disjunction ts g) :
      Reads .term (.opening :: ts ++ [.closing]) g

/-! ## The same rows of tokens -/

/-- What an expression of the level is as a phrase. -/
def Level.symbol : Level → Symbol
  | .disjunction => .expression
  | .conjunction => .expression
  | .factor => .negatable
  | .term => .term

/-- The level of the expressions that a phrase is read as. -/
def Symbol.level : Symbol → Level
  | .expression => .disjunction
  | .negatable => .factor
  | .term => .term

theorem Phrase.join_expression {op : Token} {ts us : List Token} (hop : op = .and ∨ op = .or)
    (hts : Phrase .expression ts) (hus : Phrase .expression us) :
    Phrase .expression (ts ++ op :: us) := by
  generalize hs : Symbol.expression = s at hus
  induction hus with
  | single first => exact .join hop hts first
  | join hop' _ right ih _ =>
    rw [← List.cons_append, ← List.append_assoc]
    exact .join hop' (ih hs) right
  | _ => cases hs

theorem Reads.phrase {l : Level} {ts : List Token} {g : Guard} (h : Reads l ts g) :
    Phrase l.symbol ts := by
  induction h with
  | conjunction _ ih => exact ih
  | or _ _ left right => exact left.join_expression (.inr rfl) right
  | factor _ ih => exact .single ih
  | and _ _ left right => exact .join (.inl rfl) left right
  | term _ ih => exact .plain ih
  | not _ ih => exact .not ih
  | rule id => exact .numeral id
  | parenthesised _ ih => exact .parenthesised ih

/-- An operand joined by `and` goes to the last conjunction, one joined by `or` makes a new one. -/
theorem Reads.exists_join {op : Token} {ts us : List Token} {a b : Guard} (hop : op = .and ∨ op = .or)
    (left : Reads .disjunction ts a) (right : Reads .factor us b) :
    ∃ g, Reads .disjunction (ts ++ op :: us) g := by
  rcases hop with rfl | rfl
  · cases left with
    | conjunction left => exact ⟨_, .conjunction (.and left right)⟩
    | or first last =>
      rw [List.append_assoc, List.cons_append]
      exact ⟨_, .or first (.and last right)⟩
  · exact ⟨_, .or left (.factor right)⟩

theorem Phrase.exists_reads {s : Symbol} {ts : List Token} (h : Phrase s ts) :
    ∃ g, Reads s.level ts g := by
  induction h with
  | single _ ih =>
    obtain ⟨g, hg⟩ := ih
    exact ⟨g, .conjunction (.factor hg)⟩
  | join hop _ _ left right =>
    obtain ⟨a, ha⟩ := left
    obtain ⟨b, hb⟩ := right
    exact ha.exists_join hop hb
  | plain _ ih =>
    obtain ⟨g, hg⟩ := ih
    exact ⟨g, .term hg⟩
  | not _ ih =>
    obtain ⟨g, hg⟩ := ih
    exact ⟨_, .not hg⟩
  | numeral id => exact ⟨_, .rule id⟩
  | parenthesised _ ih =>
    obtain ⟨g, hg⟩ := ih
    exact ⟨g, .parenthesised hg⟩

/-- The rows of tokens that write some guard are the phrases. -/
theorem exists_reads_iff {s : Symbol} {ts : List Token} :
    (∃ g, Reads s.level ts g) ↔ Phrase s ts := by
  constructor
  · rintro ⟨g, h⟩
    have hphrase := h.phrase
    rwa [show s.level.symbol = s by cases s <;> rfl] at hphrase
  · exact Phrase.exists_reads

end ClassificationKey.Guard
