import ClassificationKey.Proofs.Text.Trim
import ClassificationKey.Rule

/-!
# Making rules

A rule is made from its parts, trimmed, with what its operator makes of the literal
(`Rule.ofOperator_eq_ok_iff`). Every operator makes something of every literal, but for the search
for a pattern that is not valid (`Rule.ofOperator_eq_error_iff`).
-/

namespace ClassificationKey

open Text

/-! ## Operators -/

theorem Operator.parse_trim_eq_ok_iff {s : String} {op : Operator} :
    Operator.parse (trim s) = .ok op ↔ spellings.lookup (trim s).toLower = some op := by
  rw [parse, trim_trim]
  cases spellings.lookup (trim s).toLower <;> simp

theorem Operator.parse_trim_eq_error_iff {s : String} {e : DefinitionError} :
    Operator.parse (trim s) = .error e ↔
      spellings.lookup (trim s).toLower = none ∧ e = .unknownOperator (trim s) := by
  rw [parse, trim_trim]
  cases spellings.lookup (trim s).toLower <;> simp [eq_comm]

/-- What an operator makes of a literal. -/
inductive Operator.Makes (literal : String) : Operator → Criterion → Prop where
  | compare (c : Comparison) : Makes literal (.compare c) (.compare c (upper literal))
  | search {p : Pattern} (valid : Pattern.parse literal = .ok p) : Makes literal .search (.search p)

theorem Operator.makes_or_invalid (op : Operator) (literal : String) :
    (∃ criterion, op.Makes literal criterion) ∨
      op = .search ∧ ∃ fault, Pattern.parse literal = .error fault := by
  cases op with
  | compare c => exact .inl ⟨_, .compare c⟩
  | search =>
    cases hparse : Pattern.parse literal with
    | ok p => exact .inl ⟨_, .search hparse⟩
    | error fault => exact .inr ⟨rfl, fault, rfl⟩

/-! ## Rules -/

namespace Rule

variable {value attributeName operator name comment : String} {op : Operator}

theorem ofOperator_of_makes {criterion : Criterion} (h : op.Makes (trim value) criterion) :
    ofOperator value attributeName op name comment =
      .ok ⟨trim attributeName, criterion, trim name, trim comment⟩ := by
  cases h with
  | compare c => rfl
  | search hvalid =>
    simp only [ofOperator, hvalid]
    rfl

/-- What a comparison rule tests, once its literal is normalised. -/
theorem ofOperator_compare (value attributeName : String) (c : Comparison) (name comment : String) :
    ofOperator value attributeName (.compare c) name comment =
      .ok ⟨trim attributeName, .compare c (upper (trim value)), trim name, trim comment⟩ :=
  ofOperator_of_makes (.compare c)

theorem ofOperator_of_invalid {fault : SyntaxError} (h : Pattern.parse (trim value) = .error fault) :
    ofOperator value attributeName .search name comment = .error (.invalidPattern fault) := by
  simp only [ofOperator, h]
  rfl

theorem ofOperator_eq_ok_iff {rule : Rule} :
    ofOperator value attributeName op name comment = .ok rule ↔
      trim attributeName = rule.attributeName ∧ op.Makes (trim value) rule.criterion ∧
        trim name = rule.name ∧ rule.comment = trim comment := by
  constructor
  · intro h
    rcases op.makes_or_invalid (trim value) with ⟨criterion, hmakes⟩ | ⟨rfl, fault, hfault⟩
    · rw [ofOperator_of_makes hmakes] at h
      cases h
      exact ⟨rfl, hmakes, rfl, rfl⟩
    · rw [ofOperator_of_invalid hfault] at h
      cases h
  · rintro ⟨hattribute, hmakes, hname, hcomment⟩
    rw [ofOperator_of_makes hmakes, hattribute, hname, ← hcomment]

theorem ofOperator_eq_error_iff {e : DefinitionError} :
    ofOperator value attributeName op name comment = .error e ↔
      op = .search ∧ ∃ fault, Pattern.parse (trim value) = .error fault ∧
        e = .invalidPattern fault := by
  constructor
  · intro h
    rcases op.makes_or_invalid (trim value) with ⟨criterion, hmakes⟩ | ⟨rfl, fault, hfault⟩
    · rw [ofOperator_of_makes hmakes] at h
      cases h
    · rw [ofOperator_of_invalid hfault] at h
      exact ⟨rfl, fault, hfault, (Except.error.inj h).symm⟩
  · rintro ⟨rfl, fault, hfault, rfl⟩
    exact ofOperator_of_invalid hfault

end Rule

end ClassificationKey
