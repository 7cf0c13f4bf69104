/-!
# Double-precision numbers

A double is `nan`, or a sign and a *rank*: the number of non-negative doubles below its magnitude.
Ranks run from zero to `topRank`, the rank of infinity, and their order is that of the magnitudes,
so that comparing doubles is comparing integers. A rank is also the word of 63 bits that stores the
magnitude, and `units` is the magnitude as a multiple of the least positive double.
-/

namespace ClassificationKey

/-- The rank of infinity. -/
def topRank : Nat := 2047 <<< 52

/-- A double-precision number. -/
inductive Binary64 where
  | nan
  | signed (negative : Bool) (rank : Fin (topRank + 1))
  deriving DecidableEq, Repr

namespace Binary64

/-- A sign and a rank, a rank too large being infinity. -/
def ofRank (negative : Bool) (rank : Nat) : Binary64 :=
  .signed negative ⟨min rank topRank, by omega⟩

def zero : Binary64 := ofRank false 0

def infinity : Binary64 := ofRank false topRank

/-! ### Stored form -/

/-- Reads the 64 bits of a double; every exponent of ones with a fraction is `nan`. -/
def ofBits (bits : UInt64) : Binary64 :=
  let n := bits.toNat
  let rank := n % (1 <<< 63)
  if topRank < rank then .nan else ofRank (1 <<< 63 ≤ n) rank

/-- The 64 bits of a double. -/
def toBits : Binary64 → UInt64
  | .nan => 0x7FF8000000000000
  | .signed negative rank => UInt64.ofNat ((if negative then 1 <<< 63 else 0) + rank)

/-! ### Magnitudes -/

/-- The magnitude of the rank `n`, in multiples of the least positive double: the first
`2 ^ 53` ranks count by one, and each further `2 ^ 52` count by twice the step before. -/
def units (n : Nat) : Nat :=
  if n < 1 <<< 53 then n else (n - (((n >>> 52) - 1) <<< 52)) <<< ((n >>> 52) - 1)

/-- How many multiples of the least positive double make one. -/
def unitsPerOne : Nat := 1 <<< 1074

def isNan : Binary64 → Bool
  | .nan => true
  | .signed .. => false

def isFinite : Binary64 → Bool
  | .nan => false
  | .signed _ rank => rank.val < topRank

/-- A finite double as a signed multiple of the least positive one. -/
def signedUnits? : Binary64 → Option Int
  | .nan => none
  | .signed negative rank =>
    if rank.val < topRank then some (if negative then -(units rank) else units rank) else none

/-! ### Order -/

/-- The place of a double in the order, `nan` having none. Both zeros have place zero. -/
def place? : Binary64 → Option Int
  | .nan => none
  | .signed negative rank => some (if negative then -(rank.val : Int) else rank.val)

/-- Compares the places; `nan` stands in no relation. -/
def compareBy (r : Int → Int → Bool) (a b : Binary64) : Bool :=
  match a.place?, b.place? with
  | some i, some j => r i j
  | _, _ => false

/-- Equality of numbers: the zeros are equal, `nan` differs from itself. -/
def eq (a b : Binary64) : Bool := compareBy (fun i j => i == j) a b

def lt (a b : Binary64) : Bool := compareBy (fun i j => decide (i < j)) a b

def le (a b : Binary64) : Bool := compareBy (fun i j => decide (i ≤ j)) a b

def abs : Binary64 → Binary64
  | .nan => .nan
  | .signed _ rank => .signed false rank

def neg : Binary64 → Binary64
  | .nan => .nan
  | .signed negative rank => .signed (!negative) rank

/-- The larger of two numbers, a number being preferred to `nan`. -/
def max (a b : Binary64) : Binary64 :=
  if a.isNan then b else if b.isNan then a else if a.lt b then b else a

theorem ofBits_toBits (x : Binary64) : ofBits x.toBits = x := by
  cases x with
  | nan => decide
  | signed negative rank =>
    obtain ⟨r, hr⟩ := rank
    simp only [topRank] at hr
    have hn : (toBits (.signed negative ⟨r, hr⟩)).toNat =
        (if negative then 1 <<< 63 else 0) + r := by
      simp only [toBits, UInt64.toNat_ofNat']
      cases negative <;> simp <;> omega
    simp only [ofBits, hn]
    have hmod : r % 9223372036854775808 = r := by omega
    have hle : ¬ 9218868437227405312 < r := by omega
    have hmin : min r 9218868437227405312 = r := by omega
    have hsmall : ¬ 9223372036854775808 ≤ r := by omega
    cases negative <;> simp [ofRank, topRank, hmod, hle, hmin, hsmall]

end Binary64

end ClassificationKey
