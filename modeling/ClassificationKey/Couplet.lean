import ClassificationKey.Value

/-!
# Couplets

A couplet is a node of a key: the root, an inner question, or a class where classification ends. Its
id is an integer or a text, and the id alone identifies it.
-/

namespace ClassificationKey

/-- The identity of a couplet. -/
inductive CoupletId where
  | number (i : Int64)
  | text (s : String)
  deriving DecidableEq, Repr

namespace CoupletId

/-- The id of every root. -/
def root : CoupletId := .number 0

/-- Reads a table cell as an id: by its integer form if it has one, else by its text, trimmed. Truth
values, other doubles and blank texts are no ids. -/
def ofValue? (v : Value) : Option CoupletId :=
  match v.toInteger?, v with
  | some i, _ => some (.number i)
  | none, .text s => if v.isBlank then none else some (.text (Text.trim s))
  | none, _ => none

/-- The id as a table cell. -/
def toValue : CoupletId → Value
  | .number i => .integer i
  | .text s => .text s

def display : CoupletId → String
  | .number i => toString i.toInt
  | .text s => s

/-- Numbers come before texts; numbers by size, texts by code points. -/
instance : Ord CoupletId where
  compare
    | .number i, .number j => compare i j
    | .number _, .text _ => .lt
    | .text _, .number _ => .gt
    | .text s, .text t => compare s t

end CoupletId

/-- The role of a couplet in its key. -/
inductive CoupletKind where
  | root
  | branch
  | terminal
  deriving DecidableEq, Repr

/-- The name of a role. -/
def CoupletKind.display : CoupletKind → String
  | .root => "root"
  | .branch => "couplet"
  | .terminal => "class"

/-- A node of a key. -/
structure Couplet where
  id : CoupletId
  kind : CoupletKind
  name : String
  comment : String
  deriving DecidableEq, Repr

namespace Couplet

/-- Classification ends here. -/
def isTerminal (c : Couplet) : Bool := c.kind == .terminal

/-- Couplets with one id are the same couplet, however they are described. -/
def same (a b : Couplet) : Bool := a.id == b.id

def display (c : Couplet) : String :=
  c.kind.display ++ " " ++ c.id.display ++ " (" ++ c.name ++ ")"

end Couplet

end ClassificationKey
