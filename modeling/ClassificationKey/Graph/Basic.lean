import ClassificationKey.Couplet
import ClassificationKey.Guard.Parser

/-!
# Decision graphs

A decision graph joins couplets by guarded edges. Its first couplet is the root, whose name describes
the key. An edge knows the couplets it joins, and keeps its guard both as text and compiled; a text
that does not compile is kept with its error, which counts only when the edge is used. The settings
say how a graph is built, and how records are classified with it.
-/

namespace ClassificationKey

/-- A guarded edge between two couplets. -/
structure Edge where
  source : Couplet
  target : Couplet
  expression : String
  guard : Except SyntaxError Guard.Compiled
  /-- The compiled guard is that of the text. -/
  guard_eq : guard = Guard.compile expression

/-- Couplets joined by guarded edges. -/
structure DecisionGraph where
  root : Couplet
  others : List Couplet
  edges : List Edge

namespace DecisionGraph

/-- All couplets, the root first, then in the order of their first declarations. -/
def couplets (g : DecisionGraph) : List Couplet := g.root :: g.others

def description (g : DecisionGraph) : String := g.root.name

def nodeCount (g : DecisionGraph) : Nat := g.couplets.length

def edgeCount (g : DecisionGraph) : Nat := g.edges.length

/-- The couplet of an id. -/
def couplet? (g : DecisionGraph) (id : CoupletId) : Option Couplet :=
  g.couplets.find? fun c => c.id == id

/-- The edges that leave a couplet, in the order of their declarations. -/
def children (g : DecisionGraph) (id : CoupletId) : List Edge :=
  g.edges.filter fun e => e.source.id == id

/-- The couplets that the edges from a couplet lead to. -/
def successors (g : DecisionGraph) (id : CoupletId) : List CoupletId :=
  (g.children id).map fun e => e.target.id

def ids (g : DecisionGraph) : List CoupletId := g.couplets.map Couplet.id

def display (g : DecisionGraph) : String :=
  "DecisionGraph(\"" ++ g.description ++ "\", " ++ toString g.nodeCount ++ " couplets, " ++
    toString g.edgeCount ++ " edges)"

@[simp] theorem mem_children {g : DecisionGraph} {id : CoupletId} {e : Edge} :
    e ∈ g.children id ↔ e ∈ g.edges ∧ e.source.id = id := by
  simp [children]

theorem mem_successors {g : DecisionGraph} {a b : CoupletId} :
    b ∈ g.successors a ↔ ∃ e ∈ g.edges, e.source.id = a ∧ e.target.id = b := by
  simp only [successors, List.mem_map, mem_children]
  constructor
  · rintro ⟨e, ⟨he, hs⟩, ht⟩
    exact ⟨e, he, hs, ht⟩
  · rintro ⟨e, he, hs, ht⟩
    exact ⟨e, ⟨he, hs⟩, ht⟩

end DecisionGraph

/-! ### Settings -/

/-- Settings for building a key and classifying with it. -/
structure Settings where
  /-- The name of the root couplet. -/
  description : String := "Key"
  /-- The attribute that identifies a record in results and errors. -/
  idField : Option String := none
  /-- Are cyclic keys refused? -/
  checkCycles : Bool := true
  /-- The greatest number of steps, if it is not to follow from the size of the key. -/
  maxSteps : Option Nat := none
  deriving DecidableEq, Repr

end ClassificationKey
