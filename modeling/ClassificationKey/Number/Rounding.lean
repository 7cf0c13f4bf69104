import ClassificationKey.Number.Binary64

/-!
# Rounding and arithmetic

The result of an operation is the double nearest to the exact result, a tie going to the even rank.
Exact results are kept as fractions of the least positive double, so rounding is one function,
`nearestRank`, and each operation is its exact formula followed by it.
-/

namespace ClassificationKey.Binary64

/-- A quotient rounded to the nearest whole number, a half going to the even one. -/
def divNearest (num den : Nat) : Nat :=
  let q := num / den
  let twice := 2 * (num % den)
  if twice < den then q else if den < twice then q + 1 else q + q % 2

/-- The rank nearest to the magnitude of `num / den` units. A magnitude of at least `2 ^ (53 + s)`
units, for the largest such `s`, lies where ranks step by `2 ^ (s + 1)` units. -/
def nearestRank (num den : Nat) : Nat :=
  let scale := (num / den).log2 - 52
  (scale <<< 52) + divNearest num (den <<< scale)

/-- The double nearest to `num / den` units. -/
def nearest (negative : Bool) (num den : Nat) : Binary64 := ofRank negative (nearestRank num den)

/-- The double nearest to a natural number. -/
def ofNat (n : Nat) : Binary64 := nearest false (n * unitsPerOne) 1

/-- The double nearest to an integer. -/
def ofInt (i : Int) : Binary64 := nearest (i < 0) (i.natAbs * unitsPerOne) 1

def add : Binary64 → Binary64 → Binary64
  | .nan, _ => .nan
  | _, .nan => .nan
  | .signed s a, .signed t b =>
    if a.val = topRank then (if b.val = topRank && s != t then .nan else .signed s a)
    else if b.val = topRank then .signed t b
    else
      let sum : Int := (if s then -(units a : Int) else units a) +
        (if t then -(units b : Int) else units b)
      nearest (sum < 0 || (sum == 0 && s && t)) sum.natAbs 1

def sub (a b : Binary64) : Binary64 := a.add b.neg

def mul : Binary64 → Binary64 → Binary64
  | .nan, _ => .nan
  | _, .nan => .nan
  | .signed s a, .signed t b =>
    if a.val = topRank || b.val = topRank then
      (if a.val = 0 || b.val = 0 then .nan else ofRank (s != t) topRank)
    else nearest (s != t) (units a * units b) unitsPerOne

def div : Binary64 → Binary64 → Binary64
  | .nan, _ => .nan
  | _, .nan => .nan
  | .signed s a, .signed t b =>
    if a.val = topRank then (if b.val = topRank then .nan else ofRank (s != t) topRank)
    else if b.val = topRank then ofRank (s != t) 0
    else if b.val = 0 then (if a.val = 0 then .nan else ofRank (s != t) topRank)
    else nearest (s != t) (units a * unitsPerOne) (units b)

/-- The whole number that a finite double is, if it is one. -/
def whole? (x : Binary64) : Option Int :=
  x.signedUnits?.bind fun u => if u % unitsPerOne = 0 then some (u / unitsPerOne) else none

example : (ofNat 1).toBits = 0x3FF0000000000000 := by decide +kernel

example : ((ofNat 1).div (ofNat 10)).toBits = 0x3FB999999999999A := by decide +kernel

example : (((ofNat 1).div (ofNat 10)).add ((ofNat 1).div (ofNat 5))).toBits =
    0x3FD3333333333334 := by
  decide +kernel

end ClassificationKey.Binary64
