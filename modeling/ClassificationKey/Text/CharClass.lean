import ClassificationKey.Text.CaseVariant
import ClassificationKey.Text.CodePoints

/-!
# Character classes

A class is a set of code points kept as the expression that defines it, so that membership is a
computation on one code point and no set is ever listed. `folded` closes a class under variants in
case, `asciiFolded` under those of the English letters alone.
-/

namespace ClassificationKey.Text

/-- A set of code points. -/
inductive CharClass where
  | points (s : CodePoints)
  | union (a b : CharClass)
  | inter (a b : CharClass)
  | diff (a b : CharClass)
  | symmDiff (a b : CharClass)
  | complement (a : CharClass)
  | folded (a : CharClass)
  | asciiFolded (a : CharClass)
  deriving DecidableEq, Repr

namespace CharClass

/-- Is the code point in the class? -/
def has : CharClass → Nat → Bool
  | .points s, n => s.has n
  | .union a b, n => a.has n || b.has n
  | .inter a b, n => a.has n && b.has n
  | .diff a b, n => a.has n && !b.has n
  | .symmDiff a b, n => a.has n != b.has n
  | .complement a, n => !a.has n
  | .folded a, n => (caseVariants n).any a.has
  | .asciiFolded a, n => (asciiVariants n).any a.has

def empty : CharClass := .points .empty

def single (c : Char) : CharClass := .points (.span c.toNat c.toNat)

def unions : List CharClass → CharClass
  | [] => empty
  | [a] => a
  | a :: as => .union a (unions as)

/-- Does the class hold no code point from 128 to 255? -/
def avoidsHighBytes (a : CharClass) : Bool :=
  (List.range 128).all fun i => !a.has (i + 128)

/-- The intervals that the class is made of, in no order. -/
def intervals : CharClass → List (Nat × Nat)
  | .points s => s.spans
  | .union a b => a.intervals ++ b.intervals
  | .inter a b => a.intervals ++ b.intervals
  | .diff a b => a.intervals ++ b.intervals
  | .symmDiff a b => a.intervals ++ b.intervals
  | .complement a => a.intervals
  | .folded a => a.intervals
  | .asciiFolded a => a.intervals

/-- Counts intervals that stand in ascending order, those that touch or overlap as one. `reached` is
one more than the last code point counted. -/
def countJoined (reached : Nat) : List (Nat × Nat) → Nat
  | [] => 0
  | (first, last) :: spans =>
    (if first ≤ reached then 0 else 1) + countJoined (max reached (last + 1)) spans

/-- About how many intervals it takes to list the class. -/
def spanCount (a : CharClass) : Nat :=
  countJoined 0 (a.intervals.mergeSort fun s t => s.1 ≤ t.1) + 1

/-- Is the class given within ASCII, variants in case aside? -/
def isNarrow : CharClass → Bool
  | .points s => s.spans.all fun span => span.2 < 128
  | .union a b => a.isNarrow && b.isNarrow
  | .inter a b => a.isNarrow || b.isNarrow
  | .diff a _ => a.isNarrow
  | .symmDiff a b => a.isNarrow && b.isNarrow
  | .complement _ => false
  | .folded a => a.isNarrow && !a.has 0x4B && !a.has 0x6B && !a.has 0x53 && !a.has 0x73
  | .asciiFolded a => a.isNarrow

@[simp] theorem has_empty (n : Nat) : empty.has n = false := rfl

end CharClass

end ClassificationKey.Text
