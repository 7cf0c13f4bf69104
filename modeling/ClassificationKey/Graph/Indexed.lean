import ClassificationKey.Graph.Assembly
import Std.Data.HashMap

/-!
# Graphs by position

A `DecisionGraph` has its couplets in its edges. An `IndexedGraph` is the same graph as it lies in
memory: couplets and edges stand in lists and refer to each other by position, and only the index
knows ids. Lists are accessed by `fetch`, which fails where there is no such position.
-/

namespace ClassificationKey

deriving instance Hashable for CoupletId

/-- Why an indexed graph cannot be built or read. -/
inductive Fault where
  /-- A list has no such position. -/
  | outOfRange
  | refused (e : DefinitionError)
  deriving DecidableEq, Repr

def Fault.map (f : DefinitionError → DefinitionError) : Fault → Fault
  | .outOfRange => .outOfRange
  | .refused e => .refused (f e)

/-- The element at a position. -/
def fetch {α : Type} (as : List α) (n : Nat) : Except Fault α :=
  match as[n]? with
  | some a => .ok a
  | none => .error .outOfRange

/-- A guarded edge between two positions. -/
structure PlacedEdge where
  source : Nat
  target : Nat
  expression : String
  guard : Except SyntaxError Guard.Compiled
  /-- The compiled guard is that of the text. -/
  guard_eq : guard = Guard.compile expression

/-- The edge with its text compiled. -/
def PlacedEdge.make (source target : Nat) (expression : String) : PlacedEdge :=
  ⟨source, target, expression, Guard.compile expression, rfl⟩

@[simp] theorem PlacedEdge.source_make (source target : Nat) (expression : String) :
    (make source target expression).source = source :=
  rfl

/-- A decision graph by position. -/
structure IndexedGraph where
  /-- The couplets, the root first. -/
  couplets : List Couplet
  /-- The positions of the couplets. -/
  index : Std.HashMap CoupletId Nat
  edges : List PlacedEdge
  /-- For each couplet the positions of the edges that leave it. -/
  outgoing : List (List Nat)

namespace IndexedGraph

/-! ## Building -/

/-- The outputs registered so far, and the position of each declaration's output. -/
structure Registry where
  couplets : List Couplet
  index : Std.HashMap CoupletId Nat
  targets : List Nat

namespace Registry

def start (description : String) : Registry :=
  ⟨[DecisionGraph.rootOf description], (∅ : Std.HashMap CoupletId Nat).insert .root 0, []⟩

/-- Registers the output of a declaration. -/
def register (r : Registry) (d : Declaration) : Except Fault Registry :=
  match r.index[d.output.id]? with
  | some n => do
    let first ← fetch r.couplets n
    if first.kind = d.output.kind then return { r with targets := r.targets ++ [n] }
    else throw (.refused (.conflictingCouplet d.output.id first.kind d.output.kind))
  | none =>
    let n := r.couplets.length
    return ⟨r.couplets ++ [d.output], r.index.insert d.output.id n, r.targets ++ [n]⟩

end Registry

/-- The edges placed so far. -/
structure Wiring where
  edges : List PlacedEdge
  outgoing : List (List Nat)

/-- Places the edge of a declaration whose output stands at the position `target`. -/
def Wiring.place (r : Registry) (w : Wiring) (d : Declaration) (target : Nat) :
    Except Fault Wiring :=
  match r.index[d.input]? with
  | some source => do
    let input ← fetch r.couplets source
    if input.isTerminal then throw (.refused (.terminalHasBranches d.input))
    else
      let leaving ← fetch w.outgoing source
      return ⟨w.edges ++ [.make source target (Text.trim d.expression)],
        w.outgoing.set source (leaving ++ [w.edges.length])⟩
  | none => throw (.refused (.undefinedInput d.input))

/-- The graph that is declared, before it is checked. -/
def link (description : String) (declared : List Declaration)
    (locate : Nat → DefinitionError → DefinitionError) : Except Fault IndexedGraph := do
  let r ← foldNumbered (fun i r d => (Registry.register r d).mapError (Fault.map (locate i))) 0
    (Registry.start description) declared
  let w ← foldNumbered
    (fun i w (d, target) => (Wiring.place r w d target).mapError (Fault.map (locate i))) 0
    ⟨[], List.replicate r.couplets.length []⟩ (declared.zip r.targets)
  return ⟨r.couplets, r.index, w.edges, w.outgoing⟩

/-! ## Reading -/

variable (t : IndexedGraph)

/-- The edges that leave a position. -/
def leaving (n : Nat) : Except Fault (List PlacedEdge) := do
  (← fetch t.outgoing n).mapM (fetch t.edges)

/-- The edge with the couplets at its ends. -/
def view (e : PlacedEdge) : Except Fault Edge := do
  return ⟨← fetch t.couplets e.source, ← fetch t.couplets e.target, e.expression, e.guard,
    e.guard_eq⟩

/-- All edges, in the order of their declarations. -/
def edgeViews : Except Fault (List Edge) := t.edges.mapM t.view

/-- The couplet of an id. -/
def couplet? (id : CoupletId) : Except Fault (Option Couplet) :=
  match t.index[id]? with
  | some n => return some (← fetch t.couplets n)
  | none => return none

/-- The edges that leave a couplet, none for an unknown id. -/
def children (id : CoupletId) : Except Fault (List Edge) :=
  match t.index[id]? with
  | some n => do (← t.leaving n).mapM t.view
  | none => return []

/-- The graph with its couplets in its edges. -/
def toGraph : Except Fault DecisionGraph := do
  return ⟨← fetch t.couplets 0, t.couplets.tail, ← t.edgeViews⟩

end IndexedGraph

end ClassificationKey
