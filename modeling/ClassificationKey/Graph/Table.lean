import ClassificationKey.Graph.Assembly

/-!
# Key tables

A key table has the columns `INPUT_COUPLET`, `RULES`, `OUTPUT_NAME`, exactly one of `OUTPUT_COUPLET`
and `OUTPUT_CLASS`, and, optionally, `COMMENTS`. All rows are read before the graph is assembled.
-/

namespace ClassificationKey

/-- The couplet id that a cell writes. -/
def coupletIdOf (v : Value) : Except DefinitionError CoupletId :=
  match CoupletId.ofValue? v with
  | some id => .ok id
  | none => .error (.invalidCoupletId v)

/-- The text of a guard's cell. A lone rule id may have been read as a double, and is written as an
integer again. -/
def guardText (v : Value) : String :=
  match v with
  | .float _ =>
    match v.toInteger? with
    | some i => toString i.toInt
    | none => v.toText
  | v => Text.trim v.toText

namespace Record

/-- The cell of the row's output and the kind of couplet that its column stands for. -/
def output (row : Record) : Except DefinitionError (Value × CoupletKind) :=
  match row.field? "OUTPUT_COUPLET", row.field? "OUTPUT_CLASS" with
  | some v, none => .ok (v, .branch)
  | none, some v => .ok (v, .terminal)
  | _, _ => .error .outputTarget

/-- Reads a row of a key table. The columns are looked at in a fixed order. -/
def toDeclaration (row : Record) : Except DefinitionError Declaration := do
  let input ← coupletIdOf (← row.required "INPUT_COUPLET")
  let expression := guardText (← row.required "RULES")
  let (target, kind) ← row.output
  let name ← row.requiredText "OUTPUT_NAME"
  let id ← coupletIdOf target
  return ⟨input, expression, ⟨id, kind, name, row.optionalText "COMMENTS"⟩⟩

end Record

/-- The row of a key table that declares an edge. -/
def Edge.toRow (e : Edge) : Record :=
  let column := if e.target.isTerminal then "OUTPUT_CLASS" else "OUTPUT_COUPLET"
  Record.ofList
    [("INPUT_COUPLET", e.source.id.toValue), ("RULES", .text e.expression),
      (column, e.target.id.toValue), ("OUTPUT_NAME", .text e.target.name),
      ("COMMENTS", .text e.target.comment)]

namespace DecisionGraph

/-- The row of an error among the rows of a key table. -/
def locateIn (rows : List Record) (i : Nat) (e : DefinitionError) : DefinitionError :=
  match rows[i]? with
  | some row => e.inRow .key i row
  | none => e

/-- The graph of a key table. -/
def ofRows (rows : List Record) (settings : Settings) : Except DefinitionError DecisionGraph := do
  let declared ← mapNumbered (fun i row => row.toDeclaration.mapError (.inRow .key i row)) 0 rows
  assemble settings.description declared settings.checkCycles (locateIn rows)

/-- The key table of a graph, a row for each edge. -/
def toRows (g : DecisionGraph) : List Record := g.edges.map Edge.toRow

end DecisionGraph

end ClassificationKey
