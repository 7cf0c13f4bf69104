import ClassificationKey.Text.CharClass
import ClassificationKey.Text.Property

/-!
# Patterns

A pattern is searched for in a text. Only whether it occurs matters, so groups capture nothing and
greed has no meaning: what remains are classes of characters, assertions about a position, rows,
alternatives and repetitions.
-/

namespace ClassificationKey.Pattern

/-- What an assertion says about the characters before and after a position. -/
inductive Assertion where
  | textStart
  | textEnd
  | lineStart (carriage : Bool)
  | lineEnd (carriage : Bool)
  | wordBoundary (word : Text.CharClass)
  | notWordBoundary (word : Text.CharClass)
  | wordStart (word : Text.CharClass)
  | wordEnd (word : Text.CharClass)
  | noWordBefore (word : Text.CharClass)
  | noWordAfter (word : Text.CharClass)
  deriving DecidableEq, Repr

/-- A pattern. -/
inductive Node where
  | empty
  | char (cls : Text.CharClass)
  | assertion (a : Assertion)
  | row (a b : Node)
  | either (a b : Node)
  | repeated (a : Node) (least : Nat) (most : Option Nat)
  deriving DecidableEq, Repr

/-- Is there a character, and is it in the class? -/
def isIn (cls : Text.CharClass) : Option Char → Bool
  | none => false
  | some c => cls.has c.toNat

/-- Does the assertion hold between the two characters, `none` being the end of the text? With
`carriage` a line also ends at a carriage return, a return and a feed together being one end. -/
def Assertion.holds : Assertion → Option Char → Option Char → Bool
  | .textStart, before, _ => before == none
  | .textEnd, _, after => after == none
  | .lineStart false, before, _ => before == none || before == some '\n'
  | .lineStart true, before, after =>
    before == none || before == some '\n' || (before == some '\r' && after != some '\n')
  | .lineEnd false, _, after => after == none || after == some '\n'
  | .lineEnd true, before, after =>
    after == none || after == some '\r' || (after == some '\n' && before != some '\r')
  | .wordBoundary w, before, after => isIn w before != isIn w after
  | .notWordBoundary w, before, after => isIn w before == isIn w after
  | .wordStart w, before, after => !isIn w before && isIn w after
  | .wordEnd w, before, after => isIn w before && !isIn w after
  | .noWordBefore w, before, _ => !isIn w before
  | .noWordAfter w, _, after => !isIn w after

namespace Node

/-- The patterns of a list one after the other. -/
def rows : List Node → Node
  | [] => .empty
  | [a] => a
  | a :: as => .row a (rows as)

/-- Any of the patterns of a list. -/
def alternatives : List Node → Node
  | [] => .empty
  | [a] => a
  | a :: as => .either a (alternatives as)

/-- Can the pattern occur at a position only, without taking a character? -/
def isPositional : Node → Bool
  | .empty => true
  | .char _ => false
  | .assertion _ => true
  | .row a b => a.isPositional && b.isPositional
  | .either a b => a.isPositional && b.isPositional
  | .repeated a _ most => a.isPositional || most == some 0

/-! ### Room

A repetition is written out before a pattern is searched for, so bounds on it cost room. The room of a
pattern is estimated in bytes: a state takes 32, a class within ASCII two of them and 8 for each of its
intervals, and a class beyond ASCII about two for each of its intervals and more if it runs to the last
code point. Repeating what takes no character costs nothing. -/

def classRoom (cls : Text.CharClass) : Nat :=
  if cls.isNarrow then
    let members := (List.range 128).filter cls.has
    if members.length ≤ 1 then 32
    else 64 + 8 * (members.filter fun i => i = 0 || !cls.has (i - 1)).length
  else 64 * cls.spanCount + (if cls.has 0x10FFFF then 1024 else 128)

def room : Node → Nat
  | .empty => 32
  | .char cls => classRoom cls
  | .assertion _ => 32
  | .row a b => a.room + b.room
  | .either a b => a.room + b.room + 64
  | .repeated a least most =>
    let copies := if a.isPositional then 1 else most.getD (max least 1)
    copies * a.room + 40 * (copies - least) + 64

/-- The greatest room that a pattern may take. -/
def roomLimit : Nat := 10 <<< 20

end Node

end ClassificationKey.Pattern
