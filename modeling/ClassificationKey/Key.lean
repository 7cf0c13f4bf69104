import ClassificationKey.Classification
import ClassificationKey.Graph.Table
import ClassificationKey.RuleSet.Table

/-!
# Keys

A key is a rule set and a decision graph whose guards are about its rules, with the settings it is
used under.
-/

namespace ClassificationKey

/-- A rule that a guard mentions and the rule set lacks. -/
structure UndefinedReference where
  input : CoupletId
  output : CoupletId
  expression : String
  rule : RuleId
  deriving DecidableEq, Repr

/-- A classification key. -/
structure Key where
  rules : RuleSet
  graph : DecisionGraph
  settings : Settings

namespace Key

/-- The key of two tables. The rule table is read first. -/
def ofRows (ruleRows keyRows : List Record) (settings : Settings) : Except DefinitionError Key := do
  let rules ← RuleSet.ofRows ruleRows
  let graph ← DecisionGraph.ofRows keyRows settings
  return ⟨rules, graph, settings⟩

def classify (k : Key) (record : Record) : Except ClassifyError Classification :=
  k.graph.classify k.rules record k.settings

/-- Classifies records in turn; a failure stops none of the others. -/
def classifyAll (k : Key) (records : List Record) : List (Except ClassifyError Classification) :=
  records.map k.classify

/-- The references of one edge to rules that are not there; an edge whose guard does not compile has
none. -/
def undefinedReferencesOf (k : Key) (e : Edge) : List UndefinedReference :=
  match e.guard with
  | .error _ => []
  | .ok g => (k.rules.undefinedIn g).map fun id => ⟨e.source.id, e.target.id, e.expression, id⟩

/-- All references to rules that are not there, by edge and then by rule. -/
def undefinedReferences (k : Key) : List UndefinedReference :=
  k.graph.edges.flatMap k.undefinedReferencesOf

def display (k : Key) : String := "Key(" ++ k.rules.display ++ ", " ++ k.graph.display ++ ")"

end Key

/-- What a run of all stages yields: the truth of an expression and the class of a record. -/
structure Assessment where
  truth : Bool
  outcome : Classification

/-- Builds a key, evaluates an expression over its rules, and classifies a record; the first failure
of any stage is the result. -/
def assess (ruleRows keyRows : List Record) (settings : Settings) (expression : String)
    (record : Record) : Except KeyError Assessment := do
  let key ← (Key.ofRows ruleRows keyRows settings).mapError .definition
  let guard ← (Guard.compile expression).mapError .malformed
  let truth ← (key.rules.evaluate guard record).mapError .eval
  let outcome ← (key.classify record).mapError .classify
  return ⟨truth, outcome⟩

end ClassificationKey
