import ClassificationKey.Proofs.Graph.Redeclared
import ClassificationKey.Proofs.Graph.Table
import ClassificationKey.Proofs.Value

/-!
# Key tables that are exported and read back

The row of an edge writes the declaration of that edge (`Edge.declares_toRow`), and the declarations
of all edges of a graph make the same graph, under another description if need be
(`IsDeclaredBy.redescribe`). So a graph whose texts survive the way through a table is what its
exported table is read as (`IsDeclaredBy.ofRows_toRows`), and every graph that was read from a table
is of this sort (`exportable_of_ofRows`).
-/

namespace ClassificationKey

/-! ## Cells of a row -/

namespace Record

/-- The columns of a key table. -/
def keyColumns : List String :=
  ["INPUT_COUPLET", "RULES", "OUTPUT_COUPLET", "OUTPUT_CLASS", "OUTPUT_NAME", "COMMENTS"]

theorem normalise_keyColumn : ∀ column ∈ keyColumns, normalise column = column := by
  decide

theorem get?_set_keyColumn {row : Record} {name column : String} {v : Value}
    (hname : name ∈ keyColumns) (hcolumn : column ∈ keyColumns) :
    (row.set name v).get? column = if name = column then some v else row.get? column := by
  rw [get?_set, normalise_keyColumn name hname, normalise_keyColumn column hcolumn]

theorem isBlank_of_field? {row : Record} {column : String} {v : Value}
    (h : row.field? column = some v) : v.isBlank = false := by
  have hfilled := (Option.filter_eq_some_iff.mp h).2
  simpa using hfilled

theorem field?_of_get? {row : Record} {column : String} {v : Value}
    (h : row.get? column = some v) (hblank : v.isBlank = false) : row.field? column = some v := by
  rw [field?, h]
  simp [hblank]

/-- A blank text counts as none, and none as the empty text. -/
theorem optionalText_of_get? {row : Record} {column s : String}
    (h : row.get? column = some (.text s)) : row.optionalText column = Text.trim s := by
  unfold optionalText
  cases hblank : (Value.text s).isBlank with
  | true =>
    have hnone : row.field? column = none := by
      rw [field?, h]
      simp [hblank]
    rw [hnone]
    exact (eq_of_beq hblank).symm
  | false =>
    rw [field?_of_get? h hblank]
    rfl

end Record

/-- A text that stays as it is when it is trimmed, and is not empty. -/
def IsFilled (s : String) : Prop := Text.trim s = s ∧ s ≠ ""

theorem isFilled_trim {s : String} (h : Text.trim s ≠ "") : IsFilled (Text.trim s) :=
  ⟨Text.trim_trim s, h⟩

theorem IsFilled.isBlank_text {s : String} (h : IsFilled s) : (Value.text s).isBlank = false := by
  rw [Value.isBlank, h.1, beq_eq_false_iff_ne]
  exact h.2

/-! ## The row of an edge -/

namespace Edge

/-- The column that the output's id is written to. -/
def outputColumn (e : Edge) : String :=
  if e.target.isTerminal then "OUTPUT_CLASS" else "OUTPUT_COUPLET"

theorem outputColumn_ne (e : Edge) {column : String} (hclass : "OUTPUT_CLASS" ≠ column)
    (hcouplet : "OUTPUT_COUPLET" ≠ column) : e.outputColumn ≠ column := by
  unfold outputColumn
  split
  · exact hclass
  · exact hcouplet

theorem get?_toRow (e : Edge) {column : String} (h : column ∈ Record.keyColumns) :
    e.toRow.get? column =
      if "COMMENTS" = column then some (.text e.target.comment)
      else if "OUTPUT_NAME" = column then some (.text e.target.name)
      else if e.outputColumn = column then some e.target.id.toValue
      else if "RULES" = column then some (.text e.expression)
      else if "INPUT_COUPLET" = column then some e.source.id.toValue
      else none := by
  have houtput : e.outputColumn ∈ Record.keyColumns := by
    unfold outputColumn
    split <;> decide
  have hrow : e.toRow = ((((Record.empty.set "INPUT_COUPLET" e.source.id.toValue).set "RULES"
      (.text e.expression)).set e.outputColumn e.target.id.toValue).set "OUTPUT_NAME"
      (.text e.target.name)).set "COMMENTS" (.text e.target.comment) := rfl
  rw [hrow, Record.get?_set_keyColumn (by decide) h, Record.get?_set_keyColumn (by decide) h,
    Record.get?_set_keyColumn houtput h, Record.get?_set_keyColumn (by decide) h,
    Record.get?_set_keyColumn (by decide) h, Record.get?_empty]

end Edge

/-- What an edge must be like for its row to write it. -/
structure Edge.Exportable (e : Edge) : Prop where
  source : CoupletId.ofValue? e.source.id.toValue = some e.source.id
  target : CoupletId.ofValue? e.target.id.toValue = some e.target.id
  expression : IsFilled e.expression
  name : IsFilled e.target.name
  comment : Text.trim e.target.comment = e.target.comment
  kind : e.target.kind ≠ .root

namespace Edge

variable {e : Edge} (h : e.Exportable)
include h

theorem outputCell_toRow : e.toRow.OutputCell e.target.id.toValue e.target.kind := by
  have hblank := CoupletId.isBlank_toValue h.target
  have hcouplet := e.get?_toRow (show "OUTPUT_COUPLET" ∈ Record.keyColumns by decide)
  have hclass := e.get?_toRow (show "OUTPUT_CLASS" ∈ Record.keyColumns by decide)
  cases hkind : e.target.kind with
  | root => exact absurd hkind h.kind
  | branch =>
    have hcolumn : e.outputColumn = "OUTPUT_COUPLET" := by
      simp [outputColumn, Couplet.isTerminal, hkind]
    rw [hcolumn] at hcouplet hclass
    exact .branch (Record.field?_of_get? hcouplet hblank) (by rw [Record.field?, hclass]; rfl)
  | terminal =>
    have hcolumn : e.outputColumn = "OUTPUT_CLASS" := by
      simp [outputColumn, Couplet.isTerminal, hkind]
    rw [hcolumn] at hcouplet hclass
    exact .terminal (Record.field?_of_get? hclass hblank) (by rw [Record.field?, hcouplet]; rfl)

/-- The row of an edge writes the declaration of the edge. -/
theorem declares_toRow : e.toRow.Declares e.toDeclaration where
  input := by
    have hinput := e.get?_toRow (show "INPUT_COUPLET" ∈ Record.keyColumns by decide)
    have hcolumn : e.outputColumn ≠ "INPUT_COUPLET" := e.outputColumn_ne (by decide) (by decide)
    rw [if_neg (by decide), if_neg (by decide), if_neg hcolumn, if_neg (by decide),
      if_pos rfl] at hinput
    exact ⟨_, Record.field?_of_get? hinput (CoupletId.isBlank_toValue h.source), h.source⟩
  expression := by
    have hrules := e.get?_toRow (show "RULES" ∈ Record.keyColumns by decide)
    have hcolumn : e.outputColumn ≠ "RULES" := e.outputColumn_ne (by decide) (by decide)
    rw [if_neg (by decide), if_neg (by decide), if_neg hcolumn, if_pos rfl] at hrules
    exact ⟨_, Record.field?_of_get? hrules h.expression.isBlank_text, h.expression.1⟩
  output := ⟨_, outputCell_toRow h, h.target⟩
  name := by
    have hname := e.get?_toRow (show "OUTPUT_NAME" ∈ Record.keyColumns by decide)
    rw [if_neg (by decide), if_pos rfl] at hname
    exact ⟨_, Record.field?_of_get? hname h.name.isBlank_text, h.name.1⟩
  comment := by
    have hcomment := e.get?_toRow (show "COMMENTS" ∈ Record.keyColumns by decide)
    rw [if_pos rfl] at hcomment
    exact h.comment.symm.trans (Record.optionalText_of_get? hcomment).symm

end Edge

/-! ## What rows write -/

theorem isFilled_trim_guardText {v : Value} (h : v.isBlank = false) :
    IsFilled (Text.trim (guardText v)) := by
  refine isFilled_trim ?_
  have htext := Value.trim_toText_ne_empty h
  cases v with
  | float x =>
    rw [guardText]
    split
    · obtain ⟨c, hc, hblank⟩ := exists_mem_toString_int _
      exact Text.trim_ne_empty hc hblank
    · exact htext
  | integer i => exact (Text.trim_trim _).symm ▸ htext
  | truth b => exact (Text.trim_trim _).symm ▸ htext
  | text s => exact (Text.trim_trim _).symm ▸ htext

namespace Record.Declares

variable {row : Record} {d : Declaration} (h : row.Declares d)
include h

theorem id_stable : CoupletId.ofValue? d.output.id.toValue = some d.output.id := by
  obtain ⟨v, -, hid⟩ := h.output
  exact CoupletId.ofValue?_toValue hid

theorem kind_ne_root : d.output.kind ≠ .root := by
  obtain ⟨v, hcell, -⟩ := h.output
  intro hkind
  rw [hkind] at hcell
  cases hcell

theorem isFilled_name : IsFilled d.output.name := by
  obtain ⟨v, hfield, hname⟩ := h.name
  rw [← hname]
  exact isFilled_trim (Value.trim_toText_ne_empty (isBlank_of_field? hfield))

theorem isFilled_expression : IsFilled (Text.trim d.expression) := by
  obtain ⟨v, hfield, hexpression⟩ := h.expression
  rw [← hexpression]
  exact isFilled_trim_guardText (isBlank_of_field? hfield)

theorem trim_comment : Text.trim d.output.comment = d.output.comment := by
  rw [h.comment, optionalText]
  cases row.field? "COMMENTS" with
  | none => rfl
  | some v => exact Text.trim_trim _

end Record.Declares

/-! ## Exportable graphs -/

namespace DecisionGraph

/-- The ids and texts of the graph survive the way through a table, and no edge leads to a couplet
of the root's kind, which no column names. -/
structure Exportable (g : DecisionGraph) : Prop where
  ids : ∀ c ∈ g.couplets, CoupletId.ofValue? c.id.toValue = some c.id
  names : ∀ c ∈ g.others, IsFilled c.name
  comments : ∀ c ∈ g.others, Text.trim c.comment = c.comment
  expressions : ∀ e ∈ g.edges, IsFilled e.expression
  targets : ∀ e ∈ g.edges, e.target.kind ≠ .root

variable {g : DecisionGraph} {description : String} {declared : List Declaration}
  {rows : List Record} {settings : Settings}

namespace IsDeclaredBy

variable (h : g.IsDeclaredBy description declared)
include h

theorem exists_output_of_mem_others {c : Couplet} (hc : c ∈ g.others) :
    ∃ d ∈ declared, d.output = c ∧ c.id ≠ .root := by
  rw [h.others_eq] at hc
  obtain ⟨hmem, hid⟩ := List.mem_filter.mp (mem_of_mem_distinct hc)
  obtain ⟨d, hd, rfl⟩ := List.mem_map.mp hmem
  exact ⟨d, hd, rfl, of_decide_eq_true hid⟩

theorem kind_target {d : Declaration} {e : Edge} (hd : d ∈ declared)
    (he : Declares (described description declared) d e) : e.target.kind = d.output.kind :=
  h.agree e.target (registered?_eq_some he.target).1 d.output (output_mem_described hd) he.target_id

end IsDeclaredBy

theorem exportable_of_ofRows (h : ofRows rows settings = .ok g) : g.Exportable := by
  obtain ⟨declared, hrows, hg, -, -⟩ := ofRows_eq_ok_iff.mp h
  have hdeclares : ∀ d ∈ declared, ∃ row : Record, row.Declares d := by
    intro d hd
    obtain ⟨row, -, hrow⟩ := forall₂_exists_left hrows d hd
    exact ⟨row, hrow⟩
  have hothers : ∀ c ∈ g.others, ∃ d, d.output = c ∧ ∃ row : Record, row.Declares d := by
    intro c hc
    obtain ⟨d, hd, hdc, -⟩ := hg.exists_output_of_mem_others hc
    exact ⟨d, hdc, hdeclares d hd⟩
  refine ⟨List.forall_mem_cons.mpr ⟨?_, fun c hc => ?_⟩, fun c hc => ?_, fun c hc => ?_,
    fun e he => ?_, fun e he => ?_⟩
  · rw [hg.root_eq]
    rfl
  · obtain ⟨d, rfl, row, hrow⟩ := hothers c hc
    exact hrow.id_stable
  · obtain ⟨d, rfl, row, hrow⟩ := hothers c hc
    exact hrow.isFilled_name
  · obtain ⟨d, rfl, row, hrow⟩ := hothers c hc
    exact hrow.trim_comment
  · obtain ⟨d, hd, hde⟩ := forall₂_exists_left hg.edges e he
    obtain ⟨row, hrow⟩ := hdeclares d hd
    rw [hde.expression]
    exact hrow.isFilled_expression
  · obtain ⟨d, hd, hde⟩ := forall₂_exists_left hg.edges e he
    obtain ⟨row, hrow⟩ := hdeclares d hd
    rw [hg.kind_target hd hde]
    exact hrow.kind_ne_root

namespace IsDeclaredBy

variable (hg : g.IsDeclaredBy description declared) (h : g.Exportable)
include hg h

theorem target_mem_others {e : Edge} (he : e ∈ g.edges) : e.target ∈ g.others := by
  refine (List.mem_cons.mp (hg.linked.target_mem e he)).resolve_left fun hroot => ?_
  refine h.targets e he ?_
  rw [hroot, hg.root_eq]
  rfl

theorem exportable_edge {e : Edge} (he : e ∈ g.edges) : e.Exportable := by
  have htarget := hg.target_mem_others h he
  exact ⟨h.ids _ (hg.linked.source_mem e he), h.ids _ (hg.linked.target_mem e he),
    h.expressions e he, h.names _ htarget, h.comments _ htarget, h.targets e he⟩

theorem toRow_redescribe (other : String) {e : Edge} (he : e ∈ g.edges) :
    (e.redescribe other).toRow = e.toRow := by
  have htarget := hg.redescribe_of_mem_others (hg.target_mem_others h he) other
  simp only [Edge.redescribe, Edge.toRow, htarget, Couplet.redescribe_id]

theorem toRows_redescribe (other : String) : (g.redescribe other).toRows = g.toRows := by
  rw [toRows, DecisionGraph.redescribe, List.map_map, toRows]
  refine List.map_congr_left fun e he => ?_
  rw [Function.comp_apply]
  exact hg.toRow_redescribe h other he

theorem ofRows_toRows (hcycles : g.checkCycles settings.checkCycles = .ok ())
    (hreach : g.checkReach = .ok ()) :
    ofRows g.toRows settings = .ok (g.redescribe settings.description) := by
  have hagain := hg.redescribe settings.description
  refine ofRows_eq_ok_iff.mpr ⟨g.declarations, ?_, hagain, ?_, ?_⟩
  · rw [toRows, declarations, List.forall₂_map_left_iff, List.forall₂_map_right_iff,
      List.forall₂_same]
    exact fun e he => Edge.declares_toRow (hg.exportable_edge h he)
  · rw [checkCycles_eq_ok_iff_not_hasCycle hagain, hg.connects_declarations]
    exact (checkCycles_eq_ok_iff_not_hasCycle hg).mp hcycles
  · rw [checkReach_eq_ok_iff hagain, hg.connects_declarations]
    intro d hd
    obtain ⟨e, he, rfl⟩ := List.mem_map.mp hd
    obtain ⟨d, hd, hde⟩ := forall₂_exists_left hg.edges e he
    have hled := (checkReach_eq_ok_iff hg).mp hreach d hd
    rwa [← hde.target_id] at hled

end IsDeclaredBy

/-- Graphs that were read from a table are exportable. An exportable graph is what its own table is
read as, but for the name of the root, and its table does not change any more. -/
theorem export_spec :
    (∀ rows settings g, ofRows rows settings = .ok g → g.Exportable) ∧
      ∀ check g settings, Built check g → g.Exportable →
        g.checkCycles settings.checkCycles = .ok () →
        ofRows g.toRows settings = .ok (g.redescribe settings.description) ∧
          (g.redescribe settings.description).toRows = g.toRows := by
  refine ⟨fun rows settings g h => exportable_of_ofRows h,
    fun check g settings hbuilt h hcycles => ?_⟩
  obtain ⟨description, declared, locate, hassemble⟩ := hbuilt.exists_assemble
  obtain ⟨hlink, -, hreach⟩ := assemble_eq_ok_iff.mp hassemble
  have hg := link_eq_ok_iff_isDeclaredBy.mp hlink
  exact ⟨hg.ofRows_toRows h hcycles hreach, hg.toRows_redescribe h settings.description⟩

/-- A class that is declared twice, with two names. -/
def roundShapes : List Declaration :=
  [⟨.number 0, " 1", ⟨.number 5, .branch, "Corners", "counted"⟩⟩,
    ⟨.number 5, "2", ⟨.text "R", .terminal, "Round", ""⟩⟩,
    ⟨.number 0, "not 1", ⟨.text "R", .terminal, "Circle", ""⟩⟩]

theorem ofRows_toRows_roundShapes :
    ∃ g, ofDeclarations "Shapes" roundShapes false = .ok g ∧
      ofRows g.toRows ⟨"Copy", none, false, none⟩ = .ok (g.redescribe "Copy") := by
  have hbuilt : ∃ g, ofDeclarations "Shapes" roundShapes false = .ok g ∧
      (∀ c ∈ g.couplets, CoupletId.ofValue? c.id.toValue = some c.id) ∧
      (∀ c ∈ g.others, (Text.trim c.name = c.name ∧ c.name ≠ "") ∧
        Text.trim c.comment = c.comment) ∧
      ∀ e ∈ g.edges, (Text.trim e.expression = e.expression ∧ e.expression ≠ "") ∧
        e.target.kind ≠ .root :=
    ⟨_, rfl, by decide, by decide +kernel, by decide +kernel⟩
  obtain ⟨g, hg, hids, hothers, hedges⟩ := hbuilt
  have hexportable : g.Exportable :=
    ⟨hids, fun c hc => (hothers c hc).1, fun c hc => (hothers c hc).2,
      fun e he => (hedges e he).1, fun e he => (hedges e he).2⟩
  exact ⟨g, hg, (export_spec.2 false g _ (.ofDeclarations hg) hexportable rfl).1⟩

end DecisionGraph

end ClassificationKey
