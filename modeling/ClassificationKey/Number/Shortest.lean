import ClassificationKey.Number.Rounding

/-!
# Shortest decimals

The decimal that stands for a finite double is the multiple of the greatest power of ten that still
reads back as it, and of the multiples of that power the nearest. The numbers that read back as a
double form an interval, which reaches half way to either neighbour and holds its ends exactly when
the rank is even.
-/

namespace ClassificationKey.Number

/-- Does the decimal `n · 10 ^ up / 10 ^ down` read back as the double of the given rank? Twice the
decimal, in units, is compared with the sums of the double and each neighbour. -/
def readsBack (rank n up down : Nat) : Bool :=
  let twice := 2 * n * Nat.pow 10 up * Binary64.unitsPerOne
  let low := (Binary64.units (rank - 1) + Binary64.units rank) * Nat.pow 10 down
  let high := (Binary64.units rank + Binary64.units (rank + 1)) * Nat.pow 10 down
  if rank % 2 = 0 then low ≤ twice && twice ≤ high else low < twice && twice < high

/-- The multiple of `10 ^ up / 10 ^ down` that reads back as the double, if there is one. Of the two
multiples next to it the nearer is taken, and of two equally near the larger. -/
def multiple? (rank up down : Nat) : Option Nat :=
  let num := Binary64.units rank * Nat.pow 10 down
  let den := Binary64.unitsPerOne * Nat.pow 10 up
  let below := num / den
  let preferUpper := den ≤ 2 * (num % den)
  match readsBack rank below up down, readsBack rank (below + 1) up down with
  | true, true => some (if preferUpper then below + 1 else below)
  | true, false => some below
  | false, true => some (below + 1)
  | false, false => none

/-- Tries the powers of ten `10 ^ (k - 1 - 1074)`, … , `10 ^ -1074`, greatest first. The last of
them divides every double. -/
def shortestFrom (rank : Nat) : Nat → Nat × Int
  | 0 => (0, 0)
  | k + 1 =>
    let e : Int := (k : Int) - 1074
    match multiple? rank e.toNat (-e).toNat with
    | some n => (n, e)
    | none => shortestFrom rank k

/-- The coefficient and the exponent of ten of the shortest decimal of a finite magnitude. -/
def shortest (rank : Nat) : Nat × Int := shortestFrom rank 1384

end ClassificationKey.Number
