import ClassificationKey.Proofs.IntegerForm
import ClassificationKey.Proofs.Row
import ClassificationKey.Proofs.Rule
import ClassificationKey.Proofs.RuleSet.Entries
import Mathlib.Data.List.Perm.Basic

/-!
# What a rule table stands for

A row writes an entry, a rule under an id, when its cells do (`Record.WritesRule`), and has one fault
otherwise (`Record.RuleFault`). A table whose rows write entries of distinct ids stands for the rule
set that collects the entries (`RuleSet.ofRows_eq_ok_iff_collects`); of any other table the first row
is reported that has a fault or writes an id again (`RuleSet.ofRows_eq_error_iff`).
-/

namespace ClassificationKey

open Text

/-! ## Cells -/

theorem ruleIdOf_eq_ok_iff_number? {v : Value} {id : RuleId} :
    ruleIdOf v = .ok id ↔ v.number? = some (id.toNat : ℚ) ∧ id ≠ 0 := by
  constructor
  · intro h
    refine ⟨number?_of_ruleIdOf h, ?_⟩
    rintro rfl
    obtain ⟨i, -, hpos, hi⟩ := ruleIdOf_eq_ok_iff.mp h
    exact hpos.ne' hi
  · rintro ⟨hnumber, hzero⟩
    have hlt := id.toNat_lt
    have hid : (Int64.ofInt id.toNat).toInt = id.toNat :=
      Int64.toInt_ofInt_of_le (by omega) (by omega)
    have hpos : id.toNat ≠ 0 := fun h => hzero (UInt32.toNat_inj.mp h)
    refine ruleIdOf_eq_ok_iff.mpr ⟨Int64.ofInt id.toNat, ?_, ?_, hid⟩
    · refine Value.toInteger?_of_number? ?_
      rw [hid, hnumber, Int.cast_natCast]
    · omega

theorem ruleIdOf_eq_error_iff {v : Value} {e : DefinitionError} :
    ruleIdOf v = .error e ↔
      (∀ id : RuleId, ¬ (v.number? = some (id.toNat : ℚ) ∧ id ≠ 0)) ∧ e = .invalidRuleId v := by
  simp only [← ruleIdOf_eq_ok_iff_number?]
  unfold ruleIdOf
  cases v.toInteger? with
  | none => simp [eq_comm]
  | some i =>
    simp only
    split <;> simp [eq_comm]

/-! ## Rows -/

namespace Record

variable {row : Record} {entry : RuleId × Rule}

/-- The cell of the id stands for the id, which is not zero. -/
def WritesRuleId (row : Record) (id : RuleId) : Prop :=
  ∃ v, row.field? "ID" = some v ∧ v.number? = some (id.toNat : ℚ) ∧ id ≠ 0

/-- The operator and the literal of the row make the criterion. -/
def WritesCriterion (row : Record) (criterion : Criterion) : Prop :=
  ∃ o op v, row.field? "OPERATOR" = some o ∧
    Operator.spellings.lookup (trim o.toText).toLower = some op ∧
    row.field? "VALUE" = some v ∧ op.Makes (trim v.toText) criterion

/-- The row writes the rule under the id. -/
structure WritesRule (row : Record) (entry : RuleId × Rule) : Prop where
  number : row.WritesRuleId entry.1
  attributeName : ∃ v, row.field? "ATTRIBUTE" = some v ∧ trim v.toText = entry.2.attributeName
  criterion : row.WritesCriterion entry.2.criterion
  name : ∃ v, row.field? "NAME" = some v ∧ trim v.toText = entry.2.name
  comment : entry.2.comment = row.optionalText "COMMENTS"

/-- The columns of the texts that a rule is made from, in the order in which they are looked at. -/
def ruleColumns : List String := ["ATTRIBUTE", "OPERATOR", "VALUE", "NAME"]

/-- Why a row writes no rule. Every cell is looked at before the operator is judged. -/
inductive RuleFault (row : Record) : DefinitionError → Prop where
  | noId (cell : row.field? "ID" = none) : RuleFault row (.missingField "ID")
  | badId {v : Value} (cell : row.field? "ID" = some v) (bad : ∀ id, ¬ row.WritesRuleId id) :
      RuleFault row (.invalidRuleId v)
  | noCell {id : RuleId} {before after : List String} {column : String} (number : row.WritesRuleId id)
      (split : ruleColumns = before ++ column :: after)
      (earlier : ∀ c ∈ before, ∃ v, row.field? c = some v) (cell : row.field? column = none) :
      RuleFault row (.missingField column)
  | badOperator {id : RuleId} {o : Value} (number : row.WritesRuleId id)
      (filled : ∀ c ∈ ruleColumns, ∃ v, row.field? c = some v)
      (cell : row.field? "OPERATOR" = some o)
      (bad : Operator.spellings.lookup (trim o.toText).toLower = none) :
      RuleFault row (.unknownOperator (trim o.toText))
  | badPattern {id : RuleId} {o v : Value} {fault : SyntaxError} (number : row.WritesRuleId id)
      (filled : ∀ c ∈ ruleColumns, ∃ v, row.field? c = some v)
      (operator : row.field? "OPERATOR" = some o)
      (search : Operator.spellings.lookup (trim o.toText).toLower = some .search)
      (cell : row.field? "VALUE" = some v) (bad : Pattern.parse (trim v.toText) = .error fault) :
      RuleFault row (.invalidPattern fault)

theorem trim_optionalText (row : Record) (column : String) :
    trim (row.optionalText column) = row.optionalText column := by
  unfold optionalText
  cases row.field? column with
  | none => rfl
  | some v => exact trim_trim v.toText

theorem toRule_eq_ok_iff : row.toRule = .ok entry ↔ row.WritesRule entry := by
  obtain ⟨id, rule⟩ := entry
  simp only [toRule, Rule.make, bind_eq_ok_iff, required_eq_ok_iff, ruleIdOf_eq_ok_iff_number?,
    requiredText_eq_ok_iff, pure, Except.pure, Except.ok.injEq, Prod.mk.injEq,
    Rule.ofOperator_eq_ok_iff, trim_optionalText]
  constructor
  · rintro ⟨v, hv, _, hid, _, ⟨a, ha, rfl⟩, _, ⟨o, ho, rfl⟩, _, ⟨l, hl, rfl⟩, _, ⟨n, hn, rfl⟩, _,
      ⟨op, hop, hattribute, hmakes, hname, hcomment⟩, rfl, rfl⟩
    rw [trim_trim] at hattribute hmakes hname
    exact ⟨⟨v, hv, hid⟩, ⟨a, ha, hattribute⟩,
      ⟨o, op, l, ho, Operator.parse_trim_eq_ok_iff.mp hop, hl, hmakes⟩, ⟨n, hn, hname⟩, hcomment⟩
  · rintro ⟨⟨v, hv, hid⟩, ⟨a, ha, hattribute⟩, ⟨o, op, l, ho, hop, hl, hmakes⟩, ⟨n, hn, hname⟩,
      hcomment⟩
    refine ⟨v, hv, id, hid, _, ⟨a, ha, rfl⟩, _, ⟨o, ho, rfl⟩, _, ⟨l, hl, rfl⟩, _, ⟨n, hn, rfl⟩, rule,
      ⟨op, Operator.parse_trim_eq_ok_iff.mpr hop, ?_⟩, rfl, rfl⟩
    rw [trim_trim, trim_trim, trim_trim]
    exact ⟨hattribute, hmakes, hname, hcomment⟩

theorem WritesRule.unique {entry' : RuleId × Rule} (h : row.WritesRule entry)
    (h' : row.WritesRule entry') : entry = entry' := by
  rw [← toRule_eq_ok_iff] at h h'
  exact Except.ok.inj (h.symm.trans h')

theorem WritesRule.nonzero (h : row.WritesRule entry) : entry.1 ≠ 0 := by
  obtain ⟨-, -, -, hzero⟩ := h.number
  exact hzero

theorem toRule_of_ruleFault {e : DefinitionError} (h : row.RuleFault e) : row.toRule = .error e := by
  have hid {id : RuleId} (hid : row.WritesRuleId id) :
      ∃ v, row.required "ID" = .ok v ∧ ruleIdOf v = .ok id := by
    obtain ⟨v, hv, hid⟩ := hid
    exact ⟨v, required_eq_ok_iff.mpr hv, ruleIdOf_eq_ok_iff_number?.mpr hid⟩
  have htext {column : String} {v : Value} (hv : row.field? column = some v) :
      row.requiredText column = .ok (trim v.toText) := requiredText_eq_ok_iff.mpr ⟨v, hv, rfl⟩
  cases h with
  | noId hnone =>
    rw [toRule, required_eq_error_iff.mpr ⟨hnone, rfl⟩, error_bind]
  | badId hv hbad =>
    have herror := ruleIdOf_eq_error_iff.mpr ⟨fun id hid => hbad id ⟨_, hv, hid⟩, rfl⟩
    rw [toRule, required_eq_ok_iff.mpr hv, ok_bind, herror, error_bind]
  | @noCell _ before after column hnumber hsplit hearlier hnone =>
    obtain ⟨v, hv, hnumber⟩ := hid hnumber
    have hmissing := requiredText_eq_error_iff.mpr ⟨hnone, rfl⟩
    -- one case for each of the columns that can be the first one missing
    simp only [ruleColumns, List.cons_eq_append_iff, List.cons.injEq, List.nil_eq,
      List.append_eq_nil_iff, reduceCtorEq, and_false, exists_const, or_false, ↓existsAndEq,
      true_and] at hsplit
    rcases hsplit with ⟨rfl, rfl, -⟩ | ⟨_, rfl, ⟨rfl, rfl, -⟩ | ⟨_, rfl, ⟨rfl, rfl, -⟩ | ⟨rfl, rfl, -⟩⟩⟩
    · simp only [toRule, hv, hnumber, ok_bind, hmissing, error_bind]
    · obtain ⟨a, ha⟩ := by simpa using hearlier
      simp only [toRule, hv, hnumber, htext ha, ok_bind, hmissing, error_bind]
    · obtain ⟨⟨a, ha⟩, ⟨o, ho⟩⟩ := by simpa using hearlier
      simp only [toRule, hv, hnumber, htext ha, htext ho, ok_bind, hmissing, error_bind]
    · obtain ⟨⟨a, ha⟩, ⟨o, ho⟩, ⟨l, hl⟩⟩ := by simpa using hearlier
      simp only [toRule, hv, hnumber, htext ha, htext ho, htext hl, ok_bind, hmissing, error_bind]
  | badOperator hnumber hfilled ho hnone =>
    obtain ⟨v, hv, hnumber⟩ := hid hnumber
    obtain ⟨⟨a, ha⟩, -, ⟨l, hl⟩, ⟨n, hn⟩⟩ := by simpa [ruleColumns] using hfilled
    have hop := Operator.parse_trim_eq_error_iff.mpr ⟨hnone, rfl⟩
    simp only [toRule, hv, hnumber, htext ha, htext ho, htext hl, htext hn, ok_bind, Rule.make, hop,
      error_bind]
  | badPattern hnumber hfilled ho hsearch hl hfault =>
    obtain ⟨v, hv, hnumber⟩ := hid hnumber
    obtain ⟨⟨a, ha⟩, -, -, ⟨n, hn⟩⟩ := by simpa [ruleColumns] using hfilled
    have hop := Operator.parse_trim_eq_ok_iff.mpr hsearch
    rw [← trim_trim] at hfault
    simp only [toRule, hv, hnumber, htext ha, htext ho, htext hl, htext hn, ok_bind, Rule.make, hop,
      Rule.ofOperator_of_invalid hfault, error_bind]

theorem ruleFault_of_toRule {e : DefinitionError} (h : row.toRule = .error e) : row.RuleFault e := by
  simp only [toRule, Rule.make, bind_eq_error_iff, required_eq_ok_iff, required_eq_error_iff,
    ruleIdOf_eq_ok_iff_number?, ruleIdOf_eq_error_iff, requiredText_eq_ok_iff,
    requiredText_eq_error_iff, pure, Except.pure, Rule.ofOperator_eq_error_iff] at h
  rcases h with ⟨hid, rfl⟩ | ⟨v, hv, ⟨hbad, rfl⟩ | ⟨id, hnumber, h⟩⟩
  · exact .noId hid
  · refine .badId hv ?_
    rintro id ⟨w, hw, hid⟩
    cases hv.symm.trans hw
    exact hbad id hid
  have hid : row.WritesRuleId id := ⟨v, hv, hnumber⟩
  rcases h with ⟨ha, rfl⟩ | ⟨_, ⟨a, ha, rfl⟩, ⟨ho, rfl⟩ | ⟨_, ⟨o, ho, rfl⟩, h⟩⟩
  · have hsplit : ruleColumns = [] ++ "ATTRIBUTE" :: ["OPERATOR", "VALUE", "NAME"] := rfl
    exact .noCell hid hsplit (by simp) ha
  · have hsplit : ruleColumns = ["ATTRIBUTE"] ++ "OPERATOR" :: ["VALUE", "NAME"] := rfl
    exact .noCell hid hsplit (by simp [ha]) ho
  rcases h with ⟨hl, rfl⟩ | ⟨_, ⟨l, hl, rfl⟩, ⟨hn, rfl⟩ | ⟨_, ⟨n, hn, rfl⟩, h⟩⟩
  · have hsplit : ruleColumns = ["ATTRIBUTE", "OPERATOR"] ++ "VALUE" :: ["NAME"] := rfl
    exact .noCell hid hsplit (by simp [ha, ho]) hl
  · have hsplit : ruleColumns = ["ATTRIBUTE", "OPERATOR", "VALUE"] ++ "NAME" :: [] := rfl
    exact .noCell hid hsplit (by simp [ha, ho, hl]) hn
  have hfilled : ∀ c ∈ ruleColumns, ∃ v, row.field? c = some v := by
    simp [ruleColumns, ha, ho, hl, hn]
  rcases h with (hop | ⟨_, hop, rfl, fault, hfault, rfl⟩) | ⟨_, -, h⟩
  · obtain ⟨hnone, rfl⟩ := Operator.parse_trim_eq_error_iff.mp hop
    exact .badOperator hid hfilled ho hnone
  · rw [trim_trim] at hfault
    exact .badPattern hid hfilled ho (Operator.parse_trim_eq_ok_iff.mp hop) hl hfault
  · cases h

theorem toRule_eq_error_iff {e : DefinitionError} : row.toRule = .error e ↔ row.RuleFault e :=
  ⟨ruleFault_of_toRule, toRule_of_ruleFault⟩

/-- Why a row adds no entry to those that have the ids. -/
inductive EntryFault (row : Record) (ids : List RuleId) : DefinitionError → Prop where
  | rule {e : DefinitionError} (fault : row.RuleFault e) : EntryFault row ids e
  | repeated {entry : RuleId × Rule} (written : row.WritesRule entry) (used : entry.1 ∈ ids) :
      EntryFault row ids (.duplicateRule entry.1)

end Record

/-! ## Tables -/

namespace RuleSet

variable {rows : List Record} {row : Record} {entries : List (RuleId × Rule)} {rs rs' : RuleSet}
  {e : DefinitionError}

theorem addRow_eq_ok_iff :
    rs.addRow row = .ok rs' ↔ ∃ entry, row.WritesRule entry ∧ rs.add entry.1 entry.2 = .ok rs' := by
  simp only [addRow, bind_eq_ok_iff, Record.toRule_eq_ok_iff]

theorem Collects.addRow_eq_error_iff (h : rs.Collects entries) :
    rs.addRow row = .error e ↔ row.EntryFault (entries.map Prod.fst) e := by
  simp only [addRow, bind_eq_error_iff, Record.toRule_eq_error_iff, Record.toRule_eq_ok_iff,
    add_eq_error_iff, h.exists_get?_iff]
  constructor
  · rintro (hfault | ⟨entry, hentry, ⟨hzero, -⟩ | ⟨-, hused, rfl⟩⟩)
    · exact .rule hfault
    · exact absurd hzero hentry.nonzero
    · exact .repeated hentry hused
  · rintro (hfault | ⟨hentry, hused⟩)
    · exact .inl hfault
    · exact .inr ⟨_, hentry, .inr ⟨hentry.nonzero, hused, rfl⟩⟩

theorem foldlM_addRow_eq_ok_iff :
    rows.foldlM addRow rs = .ok rs' ↔
      ∃ entries, List.Forall₂ Record.WritesRule rows entries ∧
        entries.foldlM (fun rs entry => rs.add entry.1 entry.2) rs = .ok rs' := by
  induction rows generalizing rs with
  | nil => simp
  | cons row rows ih =>
    simp only [List.foldlM_cons, bind_eq_ok_iff, addRow_eq_ok_iff, ih, List.forall₂_cons_left_iff]
    constructor
    · rintro ⟨rs₁, ⟨entry, hentry, hadd⟩, entries, hentries, hrest⟩
      refine ⟨entry :: entries, ⟨entry, entries, hentry, hentries, rfl⟩, ?_⟩
      rw [List.foldlM_cons, hadd]
      exact hrest
    · rintro ⟨_, ⟨entry, entries, hentry, hentries, rfl⟩, hadd⟩
      rw [List.foldlM_cons, bind_eq_ok_iff] at hadd
      obtain ⟨rs₁, hadd, hrest⟩ := hadd
      exact ⟨rs₁, ⟨entry, hentry, hadd⟩, entries, hentries, hrest⟩

theorem foldlM_addRow_eq_ok_iff_collects :
    rows.foldlM addRow empty = .ok rs ↔
      ∃ entries, List.Forall₂ Record.WritesRule rows entries ∧ rs.Collects entries := by
  simp only [foldlM_addRow_eq_ok_iff, ← ofList_eq_ok_iff, ofList]

theorem ofRows_eq_ok_iff_collects :
    ofRows rows = .ok rs ↔
      ∃ entries, List.Forall₂ Record.WritesRule rows entries ∧ rs.Collects entries := by
  rw [← foldlM_addRow_eq_ok_iff_collects]
  exact foldNumbered_eq_ok_iff

/-- The first defect of a table: the rows before the one that is named add their entries, and this one
does not. -/
inductive Defect (rows : List Record) : DefinitionError → Prop where
  | row {before after : List Record} {row : Record} {entries : List (RuleId × Rule)}
      {e : DefinitionError} (split : rows = before ++ row :: after)
      (earlier : List.Forall₂ Record.WritesRule before entries)
      (distinct : (entries.map Prod.fst).Nodup) (fault : row.EntryFault (entries.map Prod.fst) e) :
      Defect rows (.row .rule before.length row.display e)

theorem written_nonzero (h : List.Forall₂ Record.WritesRule rows entries) :
    ∀ entry ∈ entries, entry.1 ≠ 0 := by
  intro entry hentry
  obtain ⟨row, -, hrow⟩ := forall₂_exists_left h entry hentry
  exact hrow.nonzero

theorem exists_collects (h : List.Forall₂ Record.WritesRule rows entries)
    (hdistinct : (entries.map Prod.fst).Nodup) : ∃ rs : RuleSet, rs.Collects entries := by
  obtain ⟨rs, hrs⟩ := exists_ofList_iff.mpr ⟨written_nonzero h, hdistinct⟩
  exact ⟨rs, collects_of_ofList hrs⟩

theorem ofRows_eq_error_iff : ofRows rows = .error e ↔ Defect rows e := by
  unfold ofRows
  rw [foldNumbered_eq_error_iff]
  constructor
  · rintro ⟨before, row, after, rs, e', hsplit, hbefore, hrow, rfl⟩
    obtain ⟨entries, hentries, hcollects⟩ := foldlM_addRow_eq_ok_iff_collects.mp hbefore
    rw [Nat.zero_add]
    exact .row hsplit hentries hcollects.distinct (hcollects.addRow_eq_error_iff.mp hrow)
  · rintro ⟨hsplit, hentries, hdistinct, hfault⟩
    obtain ⟨rs, hcollects⟩ := exists_collects hentries hdistinct
    refine ⟨_, _, _, rs, _, hsplit, foldlM_addRow_eq_ok_iff_collects.mpr ⟨_, hentries, hcollects⟩,
      hcollects.addRow_eq_error_iff.mpr hfault, ?_⟩
    rw [Nat.zero_add]
    rfl

theorem exists_ofRows_iff :
    (∃ rs, ofRows rows = .ok rs) ↔
      ∃ entries, List.Forall₂ Record.WritesRule rows entries ∧ (entries.map Prod.fst).Nodup := by
  simp only [ofRows_eq_ok_iff_collects]
  constructor
  · rintro ⟨rs, entries, hentries, hcollects⟩
    exact ⟨entries, hentries, hcollects.distinct⟩
  · rintro ⟨entries, hentries, hdistinct⟩
    obtain ⟨rs, hcollects⟩ := exists_collects hentries hdistinct
    exact ⟨rs, entries, hentries, hcollects⟩

theorem get?_iff_of_ofRows (h : ofRows rows = .ok rs) (id : RuleId) (rule : Rule) :
    rs.get? id = some rule ↔ ∃ row ∈ rows, row.WritesRule (id, rule) := by
  obtain ⟨entries, hentries, hcollects⟩ := ofRows_eq_ok_iff_collects.mp h
  rw [hcollects.get?_iff]
  constructor
  · intro hentry
    exact forall₂_exists_left hentries _ hentry
  · rintro ⟨row, hrow, hwritten⟩
    obtain ⟨entry, hentry, hwritten'⟩ := forall₂_exists_right hentries row hrow
    rwa [hwritten.unique hwritten']

theorem size_of_ofRows (h : ofRows rows = .ok rs) : rs.size = rows.length := by
  obtain ⟨entries, hentries, hcollects⟩ := ofRows_eq_ok_iff_collects.mp h
  rw [hcollects.size, hentries.length_eq]

theorem ofList_eq_ok_iff_ofRows (h : List.Forall₂ Record.WritesRule rows entries) :
    ofList entries = .ok rs ↔ ofRows rows = .ok rs := by
  rw [ofList_eq_ok_iff, ofRows_eq_ok_iff_collects]
  constructor
  · intro hcollects
    exact ⟨entries, h, hcollects⟩
  · rintro ⟨entries', h', hcollects⟩
    have hunique : Relator.RightUnique Record.WritesRule := fun _ _ _ => Record.WritesRule.unique
    rwa [List.right_unique_forall₂' hunique h h']

theorem ofRows_perm {rows' : List Record} (hperm : rows.Perm rows') (h : ofRows rows = .ok rs) :
    ofRows rows' = .ok rs := by
  obtain ⟨entries, hentries, hcollects⟩ := ofRows_eq_ok_iff_collects.mp h
  obtain ⟨entries', hentries', hperm'⟩ := List.perm_comp_forall₂ hperm.symm hentries
  exact ofRows_eq_ok_iff_collects.mpr ⟨entries', hentries', hcollects.perm hperm'.symm⟩

/-- A table is accepted exactly when every row writes an entry and the ids are distinct. Its rule set
holds the rule of each row under the row's id and nothing else, in ascending order, and so it is that
of the rows in any other order. Of a table that is not accepted the first row is named that has a
fault or writes an id again. The entries, added one by one, make the same set or none. -/
theorem ofRows_outcome (rows : List Record) :
    ((∃ rs, ofRows rows = .ok rs) ↔
        ∃ entries, List.Forall₂ Record.WritesRule rows entries ∧ (entries.map Prod.fst).Nodup) ∧
      (∀ rs, ofRows rows = .ok rs →
        (∀ id rule, rs.get? id = some rule ↔ ∃ row ∈ rows, row.WritesRule (id, rule)) ∧
        rs.size = rows.length ∧ rs.toList.Pairwise (fun a b => a.1 < b.1) ∧
        (∀ id rule, (id, rule) ∈ rs.toList ↔ rs.get? id = some rule) ∧
        ∀ rows', rows.Perm rows' → ofRows rows' = .ok rs) ∧
      (∀ e, ofRows rows = .error e ↔ Defect rows e) ∧
      ∀ entries rs, List.Forall₂ Record.WritesRule rows entries →
        (ofList entries = .ok rs ↔ ofRows rows = .ok rs) := by
  refine ⟨exists_ofRows_iff, ?_, fun e => ofRows_eq_error_iff, ?_⟩
  · intro rs hrs
    exact ⟨get?_iff_of_ofRows hrs, size_of_ofRows hrs, rs.toList_ascending,
      fun id rule => mem_toList_iff, fun rows' hperm => ofRows_perm hperm hrs⟩
  · intro entries rs hentries
    exact ofList_eq_ok_iff_ofRows hentries

/-- Ids in three spellings, out of order. -/
def treeRows : List Record :=
  [.ofList [("ID", .text " 3.0 "), ("Attribute", .text "height"), ("Operator", .text " GE "),
      ("Value", .float (.ofInt 30)), ("Name", .text "tall")],
    .ofList [("ID", .float (.ofInt 1)), ("Attribute", .text "habit"), ("Operator", .text "re"),
      ("Value", .text "^$"), ("Name", .text "no habit"), ("Comments", .text "left blank")],
    .ofList [("ID", .integer 2), ("Attribute", .text "evergreen"), ("Operator", .text "="),
      ("Value", .truth true), ("Name", .text "evergreen")]]

/-- A row whose id is in use. -/
def againRow : Record :=
  .ofList [("ID", .text "1"), ("Attribute", .text "habit"), ("Operator", .text "in"),
    ("Value", .text "shrub"), ("Name", .text "shrub")]

theorem ofRows_treeRows :
    (∃ rs, ofRows treeRows = .ok rs ∧ rs.size = 3 ∧ ofRows treeRows.reverse = .ok rs) ∧
      Defect (treeRows ++ [againRow]) (.row .rule 3 againRow.display (.duplicateRule 1)) := by
  have hdefect :
      Defect (treeRows ++ [againRow]) (.row .rule 3 againRow.display (.duplicateRule 1)) := by
    have herror : (ofRows (treeRows ++ [againRow])).map (fun _ => ()) =
        .error (.row .rule 3 againRow.display (.duplicateRule 1)) := by decide +kernel
    obtain ⟨-, -, hdefect, -⟩ := ofRows_outcome (treeRows ++ [againRow])
    cases hrows : ofRows (treeRows ++ [againRow]) with
    | ok rs =>
      rw [hrows] at herror
      cases herror
    | error e =>
      rw [hrows] at herror
      obtain rfl := Except.error.inj herror
      exact (hdefect _).mp hrows
  -- the rows before the one at fault are accepted
  have hok : ∃ rs, ofRows treeRows = .ok rs := by
    generalize herror : DefinitionError.row .rule 3 againRow.display (.duplicateRule 1) = e at hdefect
    obtain ⟨hsplit, hentries, hdistinct, -⟩ := hdefect
    obtain ⟨-, hlength, -⟩ := DefinitionError.row.inj herror
    obtain ⟨rfl, -⟩ := List.append_inj hsplit hlength
    exact exists_ofRows_iff.mpr ⟨_, hentries, hdistinct⟩
  obtain ⟨rs, hrs⟩ := hok
  obtain ⟨-, hcontent, -, -⟩ := ofRows_outcome treeRows
  obtain ⟨-, hsize, -, -, hperm⟩ := hcontent rs hrs
  exact ⟨⟨rs, hrs, hsize, hperm _ treeRows.reverse_perm.symm⟩, hdefect⟩

end RuleSet

end ClassificationKey
