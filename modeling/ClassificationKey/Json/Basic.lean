import ClassificationKey.Number.Decimal

/-!
# JSON data

A JSON document as a tree. Integers and other numbers are distinct, and the members of an object keep
their order and may repeat a name. A number too large for a double, a string with half a surrogate
pair, or an object with such a string for a name is well-formed but of no value: it is `void`, and
nothing can be read from it.

A number keeps as many of its leading digits as fit 64 bits. Without a point and an exponent it is an
integer if all of them do; else it is a double, the digits scaled by the power of ten in steps of at
most `10 ^ 308`, each of them rounded. A double beyond all finite ones is refused.
-/

namespace ClassificationKey

/-- A JSON document. -/
inductive Json where
  | null
  | bool (b : Bool)
  | integer (i : Int)
  | float (x : Binary64)
  | text (s : String)
  | array (items : List Json)
  | object (members : List (String × Json))
  | void

namespace Json

/-- The values under a name, in order. -/
def membersNamed (name : String) (members : List (String × Json)) : List Json :=
  (members.filter fun member => member.1 == name).map (·.2)

/-! ### Numbers -/

/-- The parts of a number as written. -/
structure NumberText where
  negative : Bool
  whole : List Char
  fraction : List Char
  /-- The sign and the digits of the exponent. -/
  exponent : Option (Bool × List Char)
  deriving DecidableEq, Repr

/-- Reads the fraction of a number, if there is a point; a digit must follow it. -/
def splitFraction? : List Char → Option (List Char × List Char)
  | '.' :: cs =>
    match cs.span Char.isDigit with
    | ([], _) => none
    | (ds, rest) => some (ds, rest)
  | cs => some ([], cs)

/-- Reads the exponent of a number, if there is a mark; a digit must follow it. -/
def splitExponent? : List Char → Option (Option (Bool × List Char) × List Char)
  | [] => some (none, [])
  | c :: cs =>
    if c = 'e' || c = 'E' then
      let (negative, rest) := Number.splitSign cs
      match rest.span Char.isDigit with
      | ([], _) => none
      | (ds, rest) => some (some (negative, ds), rest)
    else some (none, c :: cs)

/-- Reads a number. It has no leading zeros. -/
def splitNumber? (cs : List Char) : Option (NumberText × List Char) := do
  let (negative, body) := match cs with
    | '-' :: rest => (true, rest)
    | _ => (false, cs)
  let (whole, rest) := body.span Char.isDigit
  if whole = [] || (whole.head? = some '0' && whole.length ≠ 1) then none
  else
    let (fraction, rest) ← splitFraction? rest
    let (exponent, rest) ← splitExponent? rest
    return (⟨negative, whole, fraction, exponent⟩, rest)

/-- Takes digits into a significand while it fits 64 bits, and counts those taken. -/
def absorb (significand taken : Nat) : List Char → Nat × Nat
  | [] => (significand, taken)
  | d :: ds =>
    let next := 10 * significand + (d.toNat - '0'.toNat)
    if next < UInt64.size then absorb next (taken + 1) ds else (significand, taken)

/-- A power of ten as a double. -/
def powerOfTen (n : Nat) : Binary64 := (⟨false, 1, n⟩ : Number.Decimal).toBinary64

/-- Divides by `10 ^ 308` while the exponent is below `-308`, then scales by the rest. A number that
has become zero stays zero, so four divisions are enough. -/
def scale : Nat → Binary64 → Int → Option Binary64
  | fuel, x, e =>
    if e.natAbs ≤ 308 then
      if 0 ≤ e then
        let y := x.mul (powerOfTen e.natAbs)
        if y.isFinite then some y else none
      else some (x.div (powerOfTen e.natAbs))
    else if x.eq .zero then some x
    else if 0 ≤ e then none
    else match fuel with
      | 0 => some .zero
      | fuel + 1 => scale fuel (x.div (powerOfTen 308)) (e + 308)

/-- The exponent of a number, if its digits fit 31 bits. -/
def exponentOf : Option (Bool × List Char) → Option Int
  | none => some 0
  | some (negative, ds) =>
    let n := Number.digitsValue ds
    if 1 <<< 31 ≤ n then none else some (if negative then -n else n)

/-- The double of a number, if it is finite. -/
def NumberText.toBinary64? (t : NumberText) : Option Binary64 :=
  let (head, taken) := absorb 0 0 t.whole
  let (significand, behind) := absorb head 0 t.fraction
  let shift : Int := (t.whole.length - taken : Nat) - behind
  let magnitude : Option Binary64 := match exponentOf t.exponent with
    | some e => scale 4 (.ofNat significand) (shift + e)
    | none =>
      let up := match t.exponent with
        | some (negative, _) => !negative
        | none => false
      if significand ≠ 0 && up then none else some .zero
  magnitude.map fun x => if t.negative then x.neg else x

/-- What a number denotes. Minus zero is a double. -/
def NumberText.toJson (t : NumberText) : Json :=
  let n := Number.digitsValue t.whole
  let fits := if t.negative then 0 < n && n ≤ 1 <<< 63 else n < UInt64.size
  if t.fraction = [] && t.exponent = none && fits then
    .integer (if t.negative then -n else n)
  else match t.toBinary64? with
    | some x => .float x
    | none => .void

end Json

end ClassificationKey
