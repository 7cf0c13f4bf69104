import ClassificationKey.Proofs.Graph.Declared
import ClassificationKey.Proofs.Row

/-!
# Key tables and their defects

`Record.Declares` says which declaration a row writes, and `Record.Faulty` why it writes none. A
table is well formed when every row writes a declaration and the declarations make a graph; `ofRows`
accepts exactly the well-formed tables, and otherwise reports the first defect in a fixed order of
conditions (`ofRows_spec`).
-/

namespace ClassificationKey

open Relation

/-! ## Cells -/

theorem coupletIdOf_eq_ok_iff {v : Value} {id : CoupletId} :
    coupletIdOf v = .ok id ↔ CoupletId.ofValue? v = some id := by
  unfold coupletIdOf
  cases CoupletId.ofValue? v <;> simp

theorem coupletIdOf_eq_error_iff {v : Value} {e : DefinitionError} :
    coupletIdOf v = .error e ↔ CoupletId.ofValue? v = none ∧ e = .invalidCoupletId v := by
  unfold coupletIdOf
  cases CoupletId.ofValue? v <;> simp [eq_comm]

namespace Record

variable {row : Record}

/-- The only filled cell of a row's two output columns, and the kind of couplet it names. -/
inductive OutputCell (row : Record) (v : Value) : CoupletKind → Prop where
  | branch (filled : row.field? "OUTPUT_COUPLET" = some v)
      (other : row.field? "OUTPUT_CLASS" = none) : OutputCell row v .branch
  | terminal (filled : row.field? "OUTPUT_CLASS" = some v)
      (other : row.field? "OUTPUT_COUPLET" = none) : OutputCell row v .terminal

theorem output_eq_ok_iff {v : Value} {kind : CoupletKind} :
    row.output = .ok (v, kind) ↔ row.OutputCell v kind := by
  unfold output
  constructor
  · intro h
    split at h
    · next hcouplet hclass =>
      cases h
      exact .branch hcouplet hclass
    · next hcouplet hclass =>
      cases h
      exact .terminal hclass hcouplet
    · cases h
  · rintro (⟨hfilled, hother⟩ | ⟨hfilled, hother⟩) <;> rw [hfilled, hother]

theorem output_eq_error {e : DefinitionError} (h : row.output = .error e) :
    e = .outputTarget ∧ ∀ v kind, ¬ row.OutputCell v kind := by
  have hnone (v : Value) (kind : CoupletKind) : ¬ row.OutputCell v kind := by
    intro hcell
    rw [output_eq_ok_iff.mpr hcell] at h
    cases h
  unfold output at h
  split at h
  · cases h
  · cases h
  · exact ⟨(Except.error.inj h).symm, hnone⟩

/-! ## Rows -/

/-- The input cell writes an id. -/
def WritesInput (row : Record) (id : CoupletId) : Prop :=
  ∃ v, row.field? "INPUT_COUPLET" = some v ∧ CoupletId.ofValue? v = some id

/-- The row writes the declaration. -/
structure Declares (row : Record) (d : Declaration) : Prop where
  input : row.WritesInput d.input
  expression : ∃ v, row.field? "RULES" = some v ∧ guardText v = d.expression
  output : ∃ v, row.OutputCell v d.output.kind ∧ CoupletId.ofValue? v = some d.output.id
  name : ∃ v, row.field? "OUTPUT_NAME" = some v ∧ Text.trim v.toText = d.output.name
  comment : d.output.comment = row.optionalText "COMMENTS"

/-- Why a row writes no declaration. Every cell is looked at before the output's id is judged. -/
inductive Faulty (row : Record) : DefinitionError → Prop where
  | noInput (input : row.field? "INPUT_COUPLET" = none) :
      Faulty row (.missingField "INPUT_COUPLET")
  | badInput {v : Value} (input : row.field? "INPUT_COUPLET" = some v)
      (bad : CoupletId.ofValue? v = none) : Faulty row (.invalidCoupletId v)
  | noRules {id : CoupletId} (input : row.WritesInput id) (rules : row.field? "RULES" = none) :
      Faulty row (.missingField "RULES")
  | noOutput {id : CoupletId} {r : Value} (input : row.WritesInput id)
      (rules : row.field? "RULES" = some r) (output : ∀ v kind, ¬ row.OutputCell v kind) :
      Faulty row .outputTarget
  | noName {id : CoupletId} {r v : Value} {kind : CoupletKind} (input : row.WritesInput id)
      (rules : row.field? "RULES" = some r) (output : row.OutputCell v kind)
      (name : row.field? "OUTPUT_NAME" = none) : Faulty row (.missingField "OUTPUT_NAME")
  | badOutput {id : CoupletId} {r v n : Value} {kind : CoupletKind} (input : row.WritesInput id)
      (rules : row.field? "RULES" = some r) (output : row.OutputCell v kind)
      (name : row.field? "OUTPUT_NAME" = some n) (bad : CoupletId.ofValue? v = none) :
      Faulty row (.invalidCoupletId v)

theorem toDeclaration_eq_ok_iff {d : Declaration} :
    row.toDeclaration = .ok d ↔ row.Declares d := by
  simp only [toDeclaration, bind_eq_ok_iff, required_eq_ok_iff, coupletIdOf_eq_ok_iff,
    requiredText_eq_ok_iff, Prod.exists, output_eq_ok_iff, pure, Except.pure, Except.ok.injEq]
  constructor
  · rintro ⟨i, hi, input, hinput, r, hr, v, kind, hv, name, ⟨n, hn, hname⟩, id, hid, rfl⟩
    exact ⟨⟨i, hi, hinput⟩, ⟨r, hr, rfl⟩, ⟨v, hv, hid⟩, ⟨n, hn, hname⟩, rfl⟩
  · rintro ⟨⟨i, hi, hinput⟩, ⟨r, hr, hexpression⟩, ⟨v, hv, hid⟩, ⟨n, hn, hname⟩, hcomment⟩
    obtain ⟨input, expression, ⟨id, kind, name, comment⟩⟩ := d
    cases hexpression
    cases hcomment
    exact ⟨i, hi, input, hinput, r, hr, v, kind, hv, name, ⟨n, hn, hname⟩, id, hid, rfl⟩

theorem Declares.unique {d d' : Declaration} (h : row.Declares d) (h' : row.Declares d') : d = d' := by
  rw [← toDeclaration_eq_ok_iff] at h h'
  exact Except.ok.inj (h.symm.trans h')

theorem faulty_of_toDeclaration {e : DefinitionError} (h : row.toDeclaration = .error e) :
    row.Faulty e := by
  simp only [toDeclaration, bind_eq_error_iff, required_eq_ok_iff,
    required_eq_error_iff, coupletIdOf_eq_ok_iff, coupletIdOf_eq_error_iff, requiredText_eq_ok_iff,
    requiredText_eq_error_iff, Prod.exists, output_eq_ok_iff, pure, Except.pure] at h
  rcases h with ⟨hi, rfl⟩ | ⟨i, hi, ⟨hbad, rfl⟩ | ⟨input, hinput, h⟩⟩
  · exact .noInput hi
  · exact .badInput hi hbad
  have hin : row.WritesInput input := ⟨i, hi, hinput⟩
  rcases h with ⟨hr, rfl⟩ | ⟨r, hr, houtput | ⟨v, kind, hv, h⟩⟩
  · exact .noRules hin hr
  · obtain ⟨rfl, hnone⟩ := output_eq_error houtput
    exact .noOutput hin hr hnone
  rcases h with ⟨hn, rfl⟩ | ⟨name, ⟨n, hn, -⟩, ⟨hbad, rfl⟩ | ⟨id, -, h⟩⟩
  · exact .noName hin hr hv hn
  · exact .badOutput hin hr hv hn hbad
  · cases h

end Record

/-! ## Tables -/

namespace DecisionGraph

variable {rows : List Record} {settings : Settings} {declared : List Declaration}

/-- The rows of the table write the declarations, and these make a graph. -/
structure WellFormed (rows : List Record) (settings : Settings) (declared : List Declaration) :
    Prop where
  rows : List.Forall₂ Record.Declares rows declared
  agree : Agree (described settings.description declared)
  branches : ∀ d ∈ declared, Branches (described settings.description declared) d.input
  acyclic : settings.checkCycles = true → ¬ Graph.HasCycle (Connects declared)
  reached : ∀ d ∈ declared, ReflTransGen (Connects declared) .root d.output.id

/-- The first defect of a table: of the conditions of `WellFormed`, those before the one that fails
hold, and so do they for the rows before the one that is named. -/
inductive Defect (rows : List Record) (settings : Settings) : DefinitionError → Prop where
  | row {before after : List Record} {row : Record} {e : DefinitionError}
      (split : rows = before ++ row :: after) (earlier : ∀ b ∈ before, ∃ d, b.Declares d)
      (fault : row.Faulty e) : Defect rows settings (.row .key before.length row.display e)
  | declaration {declared : List Declaration} {i : Nat} {row : Record} {e : DefinitionError}
      (written : List.Forall₂ Record.Declares rows declared) (at_row : rows[i]? = some row)
      (fault : LinkFault settings.description declared i e) :
      Defect rows settings (.row .key i row.display e)
  | cycle {declared : List Declaration} {path : List CoupletId}
      (written : List.Forall₂ Record.Declares rows declared)
      (agree : Agree (described settings.description declared))
      (branches : ∀ d ∈ declared, Branches (described settings.description declared) d.input)
      (check : settings.checkCycles = true) (cycle : Graph.IsCycle (Connects declared) path) :
      Defect rows settings (.cyclicKey path)
  | unreached {declared before after : List Declaration} {d : Declaration}
      (written : List.Forall₂ Record.Declares rows declared)
      (agree : Agree (described settings.description declared))
      (branches : ∀ d ∈ declared, Branches (described settings.description declared) d.input)
      (acyclic : settings.checkCycles = true → ¬ Graph.HasCycle (Connects declared))
      (split : declared = before ++ d :: after)
      (earlier : ∀ b ∈ before, ReflTransGen (Connects declared) .root b.output.id)
      (unreached : ¬ ReflTransGen (Connects declared) .root d.output.id) :
      Defect rows settings (.unreachable d.output.id)

theorem declares_iff_mapNumbered :
    mapNumbered (fun i row => row.toDeclaration.mapError (DefinitionError.inRow .key i row))
        0 rows = .ok declared ↔ List.Forall₂ Record.Declares rows declared := by
  rw [mapNumbered_eq_ok_iff]
  simp only [Record.toDeclaration_eq_ok_iff]

theorem LinkFault.lt_length {description : String} {i : Nat} {e : DefinitionError}
    (h : LinkFault description declared i e) : i < declared.length := by
  cases h with
  | conflict split => simp [split]
  | input _ split => simp [split]

theorem ofRows_eq_ok_iff_assemble {g : DecisionGraph} :
    ofRows rows settings = .ok g ↔ ∃ declared, List.Forall₂ Record.Declares rows declared ∧
      assemble settings.description declared settings.checkCycles (locateIn rows) = .ok g := by
  unfold ofRows
  simp only [bind_eq_ok_iff, declares_iff_mapNumbered]

theorem ofRows_eq_ok_iff {g : DecisionGraph} :
    ofRows rows settings = .ok g ↔ ∃ declared, List.Forall₂ Record.Declares rows declared ∧
      g.IsDeclaredBy settings.description declared ∧
      g.checkCycles settings.checkCycles = .ok () ∧ g.checkReach = .ok () := by
  simp only [ofRows_eq_ok_iff_assemble, assemble_eq_ok_iff, link_eq_ok_iff_isDeclaredBy]

theorem exists_ofRows_iff :
    (∃ g, ofRows rows settings = .ok g) ↔ ∃ declared, WellFormed rows settings declared := by
  simp only [ofRows_eq_ok_iff_assemble]
  constructor
  · rintro ⟨g, declared, hrows, hg⟩
    have hwell := exists_assemble_iff.mp ⟨g, hg⟩
    exact ⟨declared, hrows, hwell.agree, hwell.branches, hwell.acyclic, hwell.reached⟩
  · rintro ⟨declared, h⟩
    obtain ⟨g, hg⟩ := exists_assemble_iff.mpr ⟨h.agree, h.branches, h.acyclic, h.reached⟩
    exact ⟨g, declared, h.rows, hg⟩

theorem defect_of_assemble (written : List.Forall₂ Record.Declares rows declared)
    {e : DefinitionError}
    (h : assemble settings.description declared settings.checkCycles (locateIn rows) = .error e) :
    Defect rows settings e := by
  unfold assemble at h
  rcases bind_eq_error_iff.mp h with h | ⟨g, hlink, h⟩
  · obtain ⟨i, e', hfault, rfl⟩ := linkFault_of_link h
    have hi : i < rows.length := written.length_eq ▸ hfault.lt_length
    rw [locateIn, List.getElem?_eq_getElem hi]
    exact .declaration written (List.getElem?_eq_getElem hi) hfault
  have hg := link_eq_ok_iff_isDeclaredBy.mp hlink
  rcases bind_eq_error_iff.mp h with h | ⟨⟨⟩, hcycles, h⟩
  · obtain ⟨hcheck, path, rfl, hpath⟩ := checkCycles_eq_error hg h
    exact .cycle written hg.agree hg.branches hcheck hpath
  have hacyclic := (checkCycles_eq_ok_iff_not_hasCycle hg).mp hcycles
  rcases bind_eq_error_iff.mp h with h | ⟨⟨⟩, -, h⟩
  · obtain ⟨before, d, after, hsplit, rfl, hnot, hearlier⟩ := checkReach_eq_error hg h
    exact .unreached written hg.agree hg.branches hacyclic hsplit hearlier hnot
  · cases h

/-- A table is accepted exactly when it is well formed; otherwise its first defect is reported. -/
theorem ofRows_spec (rows : List Record) (settings : Settings) :
    ((∃ g, ofRows rows settings = .ok g) ↔ ∃ declared, WellFormed rows settings declared) ∧
      ∀ e, ofRows rows settings = .error e → Defect rows settings e := by
  refine ⟨exists_ofRows_iff, fun e h => ?_⟩
  rcases bind_eq_error_iff.mp h with h | ⟨declared, hrows, h⟩
  · obtain ⟨before, row, after, e', hsplit, hbefore, hfault, rfl⟩ := mapNumbered_eq_error h
    rw [Nat.zero_add]
    refine .row hsplit (fun b hb => ?_) (Record.faulty_of_toDeclaration hfault)
    obtain ⟨d, hd⟩ := hbefore b hb
    exact ⟨d, Record.toDeclaration_eq_ok_iff.mp hd⟩
  · exact defect_of_assemble (declares_iff_mapNumbered.mp hrows) h

end DecisionGraph

end ClassificationKey
