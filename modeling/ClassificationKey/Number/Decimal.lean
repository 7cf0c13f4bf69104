import ClassificationKey.Number.Rounding

/-!
# Decimal numerals

A run of decimal digits writes a natural number, and a sign before it an integer. A numeral is an optional sign, digits with an optional point among or around them, and an optional
exponent; `inf`, `infinity` and `nan` are numerals too, in any case. A numeral denotes an exact
rational, and `toBinary64` is the double nearest to it.
-/

namespace ClassificationKey.Number

/-! ### Digits -/

/-- The number that a run of decimal digits writes. -/
def digitsValue (ds : List Char) : Nat :=
  ds.foldl (fun n d => 10 * n + (d.toNat - '0'.toNat)) 0

/-- Splits an optional sign off, and says whether it was a minus. -/
def splitSign : List Char → Bool × List Char
  | '-' :: cs => (true, cs)
  | '+' :: cs => (false, cs)
  | cs => (false, cs)

/-- Does the integer fit 64 bits? -/
def inRange (i : Int) : Bool := Int64.minValue.toInt ≤ i && i ≤ Int64.maxValue.toInt

/-- Reads an optional sign and at least one digit, the number being in the range of 64 bits. -/
def readInteger? (cs : List Char) : Option Int64 :=
  let (negative, ds) := splitSign cs
  let i : Int := if negative then -(digitsValue ds : Int) else digitsValue ds
  if ds ≠ [] && ds.all Char.isDigit && inRange i then some (Int64.ofInt i) else none

example : readInteger? "-9223372036854775808".toList = some Int64.minValue := by decide +kernel

example : readInteger? "9223372036854775808".toList = none := by decide +kernel

/-! ### Numerals -/

/-- The number `± coefficient · 10 ^ exponent`. -/
structure Decimal where
  negative : Bool
  coefficient : Nat
  exponent : Int
  deriving DecidableEq, Repr

/-- What a numeral denotes. -/
inductive Numeral where
  | nan
  | infinite (negative : Bool)
  | decimal (value : Decimal)
  deriving DecidableEq, Repr

/-- Reads the exponent of a numeral: none, or a mark, an optional sign and digits. -/
def readExponent? : List Char → Option Int
  | [] => some 0
  | c :: cs =>
    let (negative, ds) := splitSign cs
    if (c = 'e' || c = 'E') && ds ≠ [] && ds.all Char.isDigit then
      some (if negative then -(digitsValue ds : Int) else digitsValue ds)
    else none

/-- Splits the fraction off, if a point comes first. -/
def splitFraction : List Char → List Char × List Char
  | '.' :: cs => cs.span Char.isDigit
  | cs => ([], cs)

/-- Reads an unsigned numeral. There is a digit before the point or after it. -/
def readDecimal? (negative : Bool) (cs : List Char) : Option Decimal :=
  let (whole, afterWhole) := cs.span Char.isDigit
  let (fraction, afterFraction) := splitFraction afterWhole
  if whole = [] && fraction = [] then none
  else (readExponent? afterFraction).map fun e =>
    ⟨negative, digitsValue (whole ++ fraction), e - fraction.length⟩

/-- Reads a numeral. -/
def readNumeral? (cs : List Char) : Option Numeral :=
  let (negative, body) := splitSign cs
  let word := body.map Char.toLower
  if word = ['n', 'a', 'n'] then some .nan
  else if word = ['i', 'n', 'f'] || word = ['i', 'n', 'f', 'i', 'n', 'i', 't', 'y'] then
    some (.infinite negative)
  else (readDecimal? negative body).map .decimal

/-- The exponent of ten just above a positive number: `coefficient < 10 ^ (decimalLength)`. -/
def decimalLength (n : Nat) : Nat := (Nat.toDigits 10 n).length

/-- The double nearest to a decimal. What lies beyond `10 ^ 310` is infinite and what lies within
`10 ^ -330` is zero, without the powers being written out. -/
def Decimal.toBinary64 (d : Decimal) : Binary64 :=
  let size := (decimalLength d.coefficient : Int) + d.exponent
  if d.coefficient = 0 || size < -330 then .ofRank d.negative 0
  else if 310 < size then .ofRank d.negative topRank
  else .nearest d.negative (d.coefficient * Nat.pow 10 d.exponent.toNat * Binary64.unitsPerOne)
    (Nat.pow 10 (-d.exponent).toNat)

def Numeral.toBinary64 : Numeral → Binary64
  | .nan => .nan
  | .infinite negative => .ofRank negative topRank
  | .decimal d => d.toBinary64

/-- Reads a numeral as the double nearest to it. -/
def readBinary64? (cs : List Char) : Option Binary64 := (readNumeral? cs).map Numeral.toBinary64

end ClassificationKey.Number
