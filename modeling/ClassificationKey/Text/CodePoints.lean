/-!
# Tables of code points

A `CodePoints` is a union of closed intervals of code points, the form in which character
properties are tabulated. `CodePoints.read` decodes the lines of a table: intervals in hexadecimal,
separated by blanks, an interval of one code point written once (`"41-5A AA B5"`).

Case mappings move whole runs of code points, or every second one of a run, by one distance. A
`Shift` is such a run; a mapping is a list of them with disjoint sources.
-/

namespace ClassificationKey.Text

/-- A union of closed intervals of code points. -/
structure CodePoints where
  spans : List (Nat × Nat)
  deriving DecidableEq, Repr

namespace CodePoints

/-- No code point at all. -/
def empty : CodePoints := ⟨[]⟩

def has (s : CodePoints) (n : Nat) : Bool := s.spans.any fun span => span.1 ≤ n && n ≤ span.2

def union (s t : CodePoints) : CodePoints := ⟨s.spans ++ t.spans⟩

/-- One closed interval. -/
def span (first last : Nat) : CodePoints := ⟨[(first, last)]⟩

@[simp] theorem has_empty (n : Nat) : empty.has n = false := rfl

@[simp] theorem has_union (s t : CodePoints) (n : Nat) :
    (s.union t).has n = (s.has n || t.has n) := by
  simp [has, union, List.any_append]

@[simp] theorem has_span (a b n : Nat) : (span a b).has n = (decide (a ≤ n) && decide (n ≤ b)) := by
  simp [has, span]

/-! ### The text of a table -/

/-- What has been read of a table: the finished intervals in reverse, and the one under way. -/
structure Reading where
  done : List (Nat × Nat)
  first : Option Nat
  current : Nat

/-- The value of a hexadecimal digit, upper case. -/
def hexValue (c : Char) : Nat :=
  if c.isDigit then c.toNat - '0'.toNat else c.toNat - 'A'.toNat + 10

/-- Ends the interval under way. -/
def Reading.close (r : Reading) : List (Nat × Nat) :=
  (r.first.getD r.current, r.current) :: r.done

def Reading.step (r : Reading) (c : Char) : Reading :=
  if c = ' ' then ⟨r.close, none, 0⟩
  else if c = '-' then ⟨r.done, some r.current, 0⟩
  else { r with current := 16 * r.current + hexValue c }

/-- The set that the lines of a table describe. -/
def read (lines : List String) : CodePoints :=
  ⟨lines.flatMap fun line => (line.toList.foldl Reading.step ⟨[], none, 0⟩).close.reverse⟩

example : read ["41-5A", "AA B5"] = ⟨[(0x41, 0x5A), (0xAA, 0xAA), (0xB5, 0xB5)]⟩ := by
  decide +kernel

end CodePoints

/-! ### Runs that are shifted -/

/-- Sends `first`, `first + step`, … , `last` to `target`, `target + step`, … . -/
structure Shift where
  first : Nat
  last : Nat
  step : Nat
  target : Nat
  deriving DecidableEq, Repr

namespace Shift

/-- The image of `n`, if it is a source of the run. -/
def image? (s : Shift) (n : Nat) : Option Nat :=
  if s.first ≤ n && n ≤ s.last && (n - s.first) % s.step == 0 then some (n - s.first + s.target)
  else none

/-- The source of `m`, if it is an image of the run. -/
def source? (s : Shift) (m : Nat) : Option Nat :=
  if s.target ≤ m && m - s.target ≤ s.last - s.first && (m - s.target) % s.step == 0 then
    some (m - s.target + s.first)
  else none

end Shift

/-- Applies the first run that has `n` for a source; a code point outside every run stays. -/
def shiftAll (shifts : List Shift) (n : Nat) : Nat := (shifts.findSome? (·.image? n)).getD n

@[simp] theorem shiftAll_nil (n : Nat) : shiftAll [] n = n := rfl

/-- Every source that the runs send to `m`. -/
def sources (shifts : List Shift) (m : Nat) : List Nat := shifts.filterMap (·.source? m)

end ClassificationKey.Text
