import ClassificationKey.Pattern.Basic

/-!
# Searching a text

A set of positions of a text is a number, whose bit `i` says whether position `i` is in the set. A
pattern maps the set of positions where it may start to the set where it may then end; it occurs in
the text when the second set is not empty for all positions as the first. A text of `n` characters
has `n + 1` positions, and no repetition does anything new after that many rounds.
-/

namespace ClassificationKey.Pattern

/-- The positions whose next character satisfies `p`. -/
def positionsOf (p : Char → Bool) : List Char → Nat
  | [] => 0
  | c :: cs => (if p c then 1 else 0) + 2 * positionsOf p cs

/-- The positions that satisfy `p`, a condition on the characters before and after. -/
def boundariesOf (p : Option Char → Option Char → Bool) (before : Option Char) : List Char → Nat
  | [] => if p before none then 1 else 0
  | c :: cs => (if p before (some c) then 1 else 0) + 2 * boundariesOf p (some c) cs

/-- A pattern with its classes and assertions replaced by the positions of one text. -/
inductive Plan where
  | stay
  | advance (positions : Nat)
  | require (positions : Nat)
  | row (a b : Plan)
  | either (a b : Plan)
  | repeated (a : Plan) (least : Nat) (most : Option Nat)

/-- Where a pattern's classes and assertions apply in a text. -/
def Node.plan (text : List Char) : Node → Plan
  | .empty => .stay
  | .char cls => .advance (positionsOf (fun c => cls.has c.toNat) text)
  | .assertion a => .require (boundariesOf a.holds none text)
  | .row a b => .row (a.plan text) (b.plan text)
  | .either a b => .either (a.plan text) (b.plan text)
  | .repeated a least most => .repeated (a.plan text) least most

/-- Applies `f` at most `k` times, and stops where it changes nothing. -/
def rounds (f : Nat → Nat) : Nat → Nat → Nat
  | 0, s => s
  | k + 1, s => let t := f s; if t = s then s else rounds f k t

/-- The positions where the pattern may end when it starts at one of `s`, in a text with `size`
positions. -/
def Plan.run (size : Nat) : Plan → Nat → Nat
  | .stay, s => s
  | .advance positions, s => 2 * (s &&& positions)
  | .require positions, s => s &&& positions
  | .row a b, s => b.run size (a.run size s)
  | .either a b, s => a.run size s ||| b.run size s
  | .repeated a least most, s =>
    let due := rounds (a.run size) (min least size) s
    let more := match most with
      | none => size
      | some m => min (m - least) size
    rounds (fun t => t ||| a.run size t) more due

/-- Does the pattern occur in the text? -/
def Node.occursIn (node : Node) (text : List Char) : Bool :=
  let size := text.length + 1
  (node.plan text).run size ((1 <<< size) - 1) != 0

end ClassificationKey.Pattern
