import ClassificationKey.Graph.Basic
import ClassificationKey.RuleSet.Basic

/-!
# Classification

A record is classified by a walk from the root. At each couplet all guards of its edges are evaluated,
exactly one must hold, and its edge is taken; the walk ends at a class. It is bounded by the settings,
or by twice the number of couplets.
-/

namespace ClassificationKey

/-- A couplet visited by a classification. -/
structure Step where
  index : Nat
  couplet : Couplet
  recordId : Option Value
  deriving DecidableEq, Repr

/-- The class of a record, and the couplets visited from the root to it. -/
structure Classification where
  result : Couplet
  steps : List Step
  recordId : Option Value
  deriving DecidableEq, Repr

namespace Classification

/-- The classification that a path of couplets makes. -/
def ofPath (result : Couplet) (path : List Couplet) (recordId : Option Value) : Classification :=
  ⟨result, path.zipIdx.map fun (c, i) => ⟨i, c, recordId⟩, recordId⟩

def display (c : Classification) : String :=
  (match c.recordId with
    | some v => v.display ++ ": "
    | none => "") ++
  c.result.name ++ " via [" ++ joinPath (c.steps.map fun s => s.couplet.id) ++ "]"

/-- The result and the steps. -/
def toParts (c : Classification) : Couplet × List Step := (c.result, c.steps)

end Classification

namespace DecisionGraph

variable (g : DecisionGraph) (rules : RuleSet) (record : Record)

/-- The edges whose guards hold, or the error of the first guard that has no truth value. -/
def matching : List Edge → Except EvalError (List Edge)
  | [] => .ok []
  | e :: es =>
    match rules.evaluateOutcome e.guard record with
    | .error err => .error err
    | .ok holds =>
      match matching es with
      | .error err => .error err
      | .ok rest => .ok (if holds then e :: rest else rest)

/-- The couplet that follows a couplet on the walk of a record. -/
def advance (c : Couplet) : Except ClassifyFailure Couplet :=
  match matching rules record (g.children c.id) with
  | .error err => .error (.eval err)
  | .ok [] => .error .noMatch
  | .ok [e] => .ok e.target
  | .ok es => .error (.ambiguous c (es.map Edge.expression))

/-- The greatest number of steps of a walk. -/
def stepLimit (settings : Settings) : Nat := settings.maxSteps.getD (2 * g.nodeCount)

/-- Walks on from `c` with so many steps left: the class reached with the couplets after `c`, or what
stopped the walk with the same. -/
def walkFrom (limit : Nat) : Nat → Couplet → Except ClassifyFailure Couplet × List Couplet
  | remaining, c =>
    if c.isTerminal then (.ok c, [])
    else match remaining with
      | 0 => (.error (.limit limit), [])
      | remaining + 1 =>
        match g.advance rules record c with
        | .error failure => (.error failure, [])
        | .ok next =>
          let (outcome, path) := walkFrom limit remaining next
          (outcome, next :: path)

/-- The value of the attribute that identifies records. -/
def recordId (settings : Settings) (record : Record) : Option Value :=
  settings.idField.bind record.get?

/-- Classifies a record. -/
def classify (settings : Settings) : Except ClassifyError Classification :=
  let limit := g.stepLimit settings
  let id := recordId settings record
  let (outcome, path) := g.walkFrom rules record limit limit g.root
  match outcome with
  | .ok result => .ok (.ofPath result (g.root :: path) id)
  | .error failure => .error ⟨record, id, g.root :: path, failure⟩

end DecisionGraph

end ClassificationKey
