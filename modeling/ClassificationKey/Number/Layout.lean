import ClassificationKey.Number.Binary64
import ClassificationKey.Number.Shortest

/-!
# Writing a double

A `Layout` holds the decision of a text format for numbers, which magnitudes are written out in
place. The digits are those of the shortest decimal. An exponent is written with a sign only where it
is negative, and `signExponent` gives it one in any case.
-/

namespace ClassificationKey.Number

/-- How numbers are laid out. A number `d.ddd · 10 ^ e` is written in place for
`leastInPlace ≤ e < firstScientific`, and with an exponent otherwise. -/
structure Layout where
  leastInPlace : Int
  firstScientific : Int
  deriving DecidableEq, Repr

namespace Layout

/-- The digits after a point, at least one. -/
def fraction (ds : List Char) : List Char := if ds = [] then ['0'] else ds

/-- Digits with the point set behind the first `e + 1` of them, zeros filled in. -/
def inPlace (ds : List Char) (e : Int) : List Char :=
  if e < 0 then '0' :: '.' :: (List.replicate (-e - 1).toNat '0' ++ ds)
  else
    let whole := e.toNat + 1
    ds.take whole ++ List.replicate (whole - ds.length) '0' ++ '.' :: fraction (ds.drop whole)

/-- An integer, with a sign only where it is negative. -/
def exponent (e : Int) : List Char := (if e < 0 then ['-'] else []) ++ Nat.toDigits 10 e.natAbs

/-- Digits with the point behind the first, and an exponent. A single digit has no point. -/
def scientific (ds : List Char) (e : Int) : List Char :=
  let tail := ds.drop 1
  ds.take 1 ++ (if tail = [] then [] else '.' :: tail) ++ 'e' :: exponent e

/-- The magnitude of a finite rank. -/
def magnitude (l : Layout) (rank : Nat) : List Char :=
  if rank = 0 then ['0', '.', '0']
  else
    let (n, exponent) := shortest rank
    let ds := Nat.toDigits 10 n
    let e := exponent + ds.length - 1
    if l.leastInPlace ≤ e && e < l.firstScientific then inPlace ds e else scientific ds e

/-- The text of a double. -/
def write (l : Layout) : Binary64 → String
  | .nan => "NaN"
  | .signed negative rank =>
    String.ofList ((if negative then ['-'] else []) ++
      (if rank.val = topRank then ['i', 'n', 'f'] else l.magnitude rank))

end Layout

/-! ### Signed exponents -/

/-- Fills up with zeros on the left. -/
def padLeft (width : Nat) (ds : List Char) : List Char :=
  List.replicate (width - ds.length) '0' ++ ds

/-- Gives the exponent of a numeral a sign in any case, and at least so many digits. -/
def signExponent (width : Nat) (cs : List Char) : List Char :=
  match cs.span (· ≠ 'e') with
  | (mantissa, []) => mantissa
  | (mantissa, _ :: '-' :: ds) => mantissa ++ 'e' :: '-' :: padLeft width ds
  | (mantissa, _ :: ds) => mantissa ++ 'e' :: '+' :: padLeft width ds

end ClassificationKey.Number
