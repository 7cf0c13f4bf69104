import ClassificationKey.Proofs.Guard.Compound
import ClassificationKey.Proofs.RuleSet.Extension
import ClassificationKey.Proofs.RuleSet.Session

/-!
# Tests of compound texts

A text that is made of guards' texts is tested as the truth values of its parts are combined, from the
left and no further than needed; an error of a part is the error of the whole, which quotes its own
text (`test_connectives`). Chains of disjunctions may be grouped in any way
(`evalTree_of_regrouped`).
-/

namespace ClassificationKey

namespace RuleSet

open Guard

variable {rs : RuleSet} {record : Record} {source : String}

/-! ## Chains of disjunctions -/

theorem evalTree_or_assoc (a b c : Guard) :
    rs.evalTree record source ((a.or b).or c) = rs.evalTree record source (a.or (b.or c)) := by
  simp only [evalTree_or_eq_bind]
  cases rs.evalTree record source a with
  | error e => rfl
  | ok v => cases v <;> rfl

theorem evalTree_or_congr {a b : Guard} (h : rs.evalTree record source a = rs.evalTree record source b)
    (c : Guard) :
    rs.evalTree record source (a.or c) = rs.evalTree record source (b.or c) := by
  rw [evalTree_or_eq_bind, h, ← evalTree_or_eq_bind]

theorem evalTree_of_regrouped {a b g : Guard} (h : Regrouped a b g) :
    rs.evalTree record source g = rs.evalTree record source (a.or b) := by
  induction h with
  | whole b => rfl
  | @apart b g _ c ih =>
    calc rs.evalTree record source (g.or c)
        = rs.evalTree record source ((a.or b).or c) := evalTree_or_congr ih c
      _ = rs.evalTree record source (a.or (b.or c)) := evalTree_or_assoc a b c

/-! ## Texts -/

theorem test_of_writes {s : String} {g : Guard} (h : Writes s g) :
    rs.test s record = rs.evalTree record s g := by
  have htrim := h.trimmed.trim_eq
  rw [test, compile, htrim, h.parse_eq]
  show rs.evalTree record (Text.trim s) g = rs.evalTree record s g
  rw [htrim]

theorem test_trim (rs : RuleSet) (s : String) (record : Record) :
    rs.test (Text.trim s) record = rs.test s record := by
  rw [test, Text.trim_trim, test]

/-- A text is tested as its guard is evaluated, quoting itself. -/
theorem evalTree_eq_mapError_test {s : String} {g : Guard} (h : parse s = .ok g) (source : String) :
    rs.evalTree record source g = (rs.test s record).mapError (.quoting source) := by
  rw [← test_trim, test_of_writes (writes_trim h)]
  exact evalTree_eq_mapError source (Text.trim s) g

/-! ## Connectives -/

theorem test_notText {s : String} {a : Guard} (hs : parse s = .ok a) :
    rs.test (notText (Text.trim s)) record =
      (rs.test s record >>= fun v => .ok !v).mapError (.quoting (notText (Text.trim s))) := by
  rw [test_of_writes (writes_trim hs).negated, evalTree_not_eq_bind, evalTree_eq_mapError_test hs,
    mapError_bind]
  rfl

theorem test_joinText_and {s t : String} {a b : Guard} (hs : parse s = .ok a)
    (ht : parse t = .ok b) :
    rs.test (joinText "and" (Text.trim s) (Text.trim t)) record =
      (rs.test s record >>= fun v => if v then rs.test t record else .ok false).mapError
        (.quoting (joinText "and" (Text.trim s) (Text.trim t))) := by
  rw [test_of_writes ((writes_trim hs).conjoined (writes_trim ht)), evalTree_and_eq_bind,
    evalTree_eq_mapError_test hs, evalTree_eq_mapError_test ht, mapError_bind_ite]
  rfl

theorem test_joinText_or {s t : String} {a b : Guard} (hs : parse s = .ok a)
    (ht : parse t = .ok b) :
    rs.test (joinText "or" (Text.trim s) (Text.trim t)) record =
      (rs.test s record >>= fun v => if v then .ok true else rs.test t record).mapError
        (.quoting (joinText "or" (Text.trim s) (Text.trim t))) := by
  rw [test_of_writes ((writes_trim hs).disjoined (writes_trim ht)), evalTree_or_eq_bind,
    evalTree_eq_mapError_test hs, evalTree_eq_mapError_test ht, mapError_bind_ite]
  rfl

/-- Parentheses make no difference to the operands of `or`. -/
theorem test_bareOrText {s t : String} {a b : Guard} (hs : parse s = .ok a) (ht : parse t = .ok b) :
    rs.test (bareOrText (Text.trim s) (Text.trim t)) record =
      (rs.test (joinText "or" (Text.trim s) (Text.trim t)) record).mapError
        (.quoting (bareOrText (Text.trim s) (Text.trim t))) := by
  have hx := writes_trim hs
  have hy := writes_trim ht
  obtain ⟨g, hg, hregrouped⟩ := hx.exists_bareOr hy
  rw [test_of_writes hg, evalTree_of_regrouped hregrouped, test_of_writes (hx.disjoined hy)]
  exact evalTree_eq_mapError _ _ (a.or b)

/-- A negation, a conjunction and a disjunction of two texts that are guards is tested as the texts are,
from the left, the second one only where the first does not decide: `and` where the first is true, `or`
where it is false. An error of a part is that of the whole, but for the text that is quoted; and a
disjunction comes to the same without parentheses. A session answers all these tests as if nothing had
been asked of it before. -/
theorem test_connectives (rs : RuleSet) (record : Record) {s t x y : String}
    (hs : ∃ a, parse s = .ok a) (ht : ∃ b, parse t = .ok b) (hx : Text.trim s = x)
    (hy : Text.trim t = y) :
    (rs.test (notText x) record =
        (rs.test s record >>= fun v => .ok !v).mapError (.quoting (notText x))) ∧
      (rs.test (joinText "and" x y) record =
        (rs.test s record >>= fun v => if v then rs.test t record else .ok false).mapError
          (.quoting (joinText "and" x y))) ∧
      (rs.test (joinText "or" x y) record =
        (rs.test s record >>= fun v => if v then .ok true else rs.test t record).mapError
          (.quoting (joinText "or" x y))) ∧
      (rs.test (bareOrText x y) record =
        (rs.test (joinText "or" x y) record).mapError (.quoting (bareOrText x y))) ∧
      ∀ calls call, ((Session.start rs).run calls).2.answer call =
        rs.test call.text call.record := by
  obtain ⟨a, ha⟩ := hs
  obtain ⟨b, hb⟩ := ht
  subst hx hy
  exact ⟨test_notText ha, test_joinText_and ha hb, test_joinText_or ha hb, test_bareOrText ha hb,
    Session.answer_run rs⟩

theorem test_sizeAndColour :
    let record : Record := .ofList [("size", .text "xl")]
    (∃ a, parse " 2" = .ok a) ∧ (∃ b, parse "3 or 9 " = .ok b) ∧
      colourRules.test "not (2)" record = .ok false ∧
      colourRules.test "(2) and (3 or 9)" record = .error (.missingAttribute "red" "COLOUR") ∧
      colourRules.test "(2) or (3 or 9)" record = .ok true ∧
      colourRules.test "2 or 3 or 9" record = .ok true := by
  intro record
  have hs : ∃ a, parse " 2" = .ok a := ⟨_, rfl⟩
  have ht : ∃ b, parse "3 or 9 " = .ok b := ⟨_, rfl⟩
  have htrue : colourRules.test " 2" record = .ok true := by decide
  have hmissing : colourRules.test "3 or 9 " record =
      .error (.missingAttribute "red" "COLOUR") := by
    decide
  have hlaws := test_connectives colourRules record hs ht (x := "2") (y := "3 or 9") rfl rfl
  rw [htrue, hmissing] at hlaws
  obtain ⟨hnot, hand, hor, hbare, -⟩ := hlaws
  rw [hor] at hbare
  exact ⟨hs, ht, hnot, hand, hor, hbare⟩

end RuleSet

end ClassificationKey
