import ClassificationKey.Graph.Basic
import ClassificationKey.Graph.Search
import ClassificationKey.Row

/-!
# Assembling a graph

A graph is declared edge by edge; each declaration describes the couplet that its edge leads to. The
outputs are registered first, so the declarations may stand in any order: a couplet keeps its first
description, and every later one must agree on its kind. Then each edge finds its input, then cycles
are refused if they are to be, and last every couplet must be reachable from the root.
-/

namespace ClassificationKey

/-- An edge as it is declared. -/
structure Declaration where
  input : CoupletId
  expression : String
  output : Couplet
  deriving DecidableEq, Repr

namespace DecisionGraph

/-- The root of a key with the given description. -/
def rootOf (description : String) : Couplet := ⟨.root, .root, description, ""⟩

/-- The registered couplet of an id. -/
def registered? (couplets : List Couplet) (id : CoupletId) : Option Couplet :=
  couplets.find? fun c => c.id == id

/-- Registers the output of a declaration behind the couplets registered so far. -/
def register (couplets : List Couplet) (d : Declaration) :
    Except DefinitionError (List Couplet) :=
  match registered? couplets d.output.id with
  | none => .ok (couplets ++ [d.output])
  | some first =>
    if first.kind = d.output.kind then .ok couplets
    else .error (.conflictingCouplet d.output.id first.kind d.output.kind)

/-- The edge of a declaration, between registered couplets. -/
def resolve (couplets : List Couplet) (d : Declaration) : Except DefinitionError Edge :=
  match registered? couplets d.input with
  | none => .error (.undefinedInput d.input)
  | some source =>
    if source.isTerminal then .error (.terminalHasBranches d.input)
    else
      let expression := Text.trim d.expression
      let target := (registered? couplets d.output.id).getD d.output
      .ok ⟨source, target, expression, Guard.compile expression, rfl⟩

/-- Refuses a cyclic graph, if cycles are to be refused. -/
def checkCycles (g : DecisionGraph) (check : Bool) : Except DefinitionError Unit :=
  if check then
    match Graph.findCycle g.successors g.ids with
    | some path => .error (.cyclicKey path)
    | none => .ok ()
  else .ok ()

/-- Refuses a graph with a couplet that the root does not lead to. -/
def checkReach (g : DecisionGraph) : Except DefinitionError Unit :=
  match Graph.firstUnreached g.successors g.root.id g.ids with
  | some id => .error (.unreachable id)
  | none => .ok ()

/-- The graph that is declared, before it is checked. `locate` says where an error of a declaration
lies. -/
def link (description : String) (declared : List Declaration)
    (locate : Nat → DefinitionError → DefinitionError) : Except DefinitionError DecisionGraph := do
  let root := rootOf description
  let couplets ← foldNumbered (fun i couplets d => (register couplets d).mapError (locate i)) 0
    [root] declared
  let edges ← mapNumbered (fun i d => (resolve couplets d).mapError (locate i)) 0 declared
  return ⟨root, couplets.tail, edges⟩

/-- The graph that is declared. -/
def assemble (description : String) (declared : List Declaration) (check : Bool)
    (locate : Nat → DefinitionError → DefinitionError) : Except DefinitionError DecisionGraph := do
  let g ← link description declared locate
  g.checkCycles check
  g.checkReach
  return g

/-- The graph of a list of declarations. -/
def ofDeclarations (description : String) (declared : List Declaration) (check : Bool) :
    Except DefinitionError DecisionGraph :=
  assemble description declared check fun _ e => e

end DecisionGraph

end ClassificationKey
