import ClassificationKey.Error
import ClassificationKey.Guard.Token

/-!
# Reading a guard

`and` binds tighter than `or`, both associate to the left, and `not` applies to the one term that
follows it. The reader is a machine that takes one token at a time: it holds the operands already
complete at the current depth, and below them those of every parenthesis still open.
-/

namespace ClassificationKey

namespace Guard

/-- An expression that awaits an operand: the disjunction so far, the conjunction so far, and
whether the operand is to be negated. -/
structure Frame where
  disjunct : Option Guard
  conjunct : Option Guard
  negated : Bool
  deriving DecidableEq, Repr

namespace Frame

/-- Nothing read yet. -/
def start : Frame := ⟨none, none, false⟩

/-- The conjunction once the operand is there. -/
def conjoin (f : Frame) (g : Guard) : Guard :=
  let operand := if f.negated then g.not else g
  match f.conjunct with
  | none => operand
  | some a => a.and operand

end Frame

/-- The disjunction once its last conjunction is there. -/
def disjoin (disjunct : Option Guard) (g : Guard) : Guard :=
  match disjunct with
  | none => g
  | some a => a.or g

/-- Between tokens the reader awaits an operand or an operator; `outer` holds the open parentheses,
innermost first. -/
inductive Reading where
  | operand (outer : List Frame) (here : Frame)
  | operator (outer : List Frame) (disjunct : Option Guard) (conjunct : Guard)
  deriving DecidableEq, Repr

namespace Reading

def start : Reading := .operand [] .start

/-- Takes one token. -/
def step : Reading → Token → Option Reading
  | .operand outer f, .rule id => some (.operator outer f.disjunct (f.conjoin (.rule id)))
  | .operand outer f, .not =>
    if f.negated then none else some (.operand outer { f with negated := true })
  | .operand outer f, .opening => some (.operand (f :: outer) .start)
  | .operator outer d g, .and => some (.operand outer ⟨d, some g, false⟩)
  | .operator outer d g, .or => some (.operand outer ⟨some (disjoin d g), none, false⟩)
  | .operator (f :: outer) d g, .closing =>
    some (.operator outer f.disjunct (f.conjoin (disjoin d g)))
  | _, _ => none

/-- The guard read, if every parenthesis is closed and no operand is awaited. -/
def finish : Reading → Option Guard
  | .operator [] d g => some (disjoin d g)
  | _ => none

end Reading

/-- The guard that a row of tokens writes. -/
def ofTokens? (ts : List Token) : Option Guard :=
  (ts.foldlM Reading.step Reading.start).bind Reading.finish

/-- The guard that a text writes, surrounding blanks aside. -/
def ofChars? (cs : List Char) : Option Guard := (Token.scan? cs).bind ofTokens?

/-- Reads a guard. A blank text is quoted as it stands, any other text at fault is quoted trimmed. -/
def parse (s : String) : Except SyntaxError Guard :=
  let trimmed := Text.trim s
  if trimmed = "" then .error ⟨s, .empty⟩
  else match ofChars? trimmed.toList with
    | some g => .ok g
    | none => .error ⟨trimmed, .malformed⟩

/-- A guard with the text it was read from, which errors and reports quote. -/
structure Compiled where
  source : String
  tree : Guard
  deriving DecidableEq, Repr

/-- Reads a guard and keeps its trimmed text. -/
def compile (s : String) : Except SyntaxError Compiled := do
  let tree ← parse s
  return ⟨Text.trim s, tree⟩

/-- The rules that the guard mentions, each once and ascending. -/
def Compiled.ruleIds (c : Compiled) : List RuleId := c.tree.ruleIds

end Guard

end ClassificationKey
