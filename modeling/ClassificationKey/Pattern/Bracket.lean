import ClassificationKey.Pattern.Escape

/-!
# Bracketed classes

Inside brackets stand characters, ranges, escapes, named classes of ASCII and further brackets; `&&`,
`--` and `~~` join what stands on either side, all equally tight and from the left. Every class
comes with its depth of nesting, which is limited for the pattern as a whole.
-/

namespace ClassificationKey.Pattern

/-- A thing read, with its depth of nesting. -/
structure Nested (α : Type) where
  body : α
  depth : Nat
  deriving DecidableEq, Repr

/-- The greatest depth among several things, and one more if there are at least two. -/
def joinedDepth (depths : List Nat) : Nat :=
  let deepest := depths.foldl max 0
  if depths.length ≤ 1 then deepest else deepest + 1

/-- The operations between classes. -/
inductive SetOp where
  | inter
  | diff
  | symmDiff
  deriving DecidableEq, Repr

def SetOp.apply (op : SetOp) (a b : Text.CharClass) : Text.CharClass :=
  match op with
  | .inter => .inter a b
  | .diff => .diff a b
  | .symmDiff => .symmDiff a b

/-- What is open around the part of a bracket that is being read: an outer bracket with its items so
far, in reverse, or an operation with its left side. -/
inductive BracketFrame where
  | bracket (outer : List (Nested Text.CharClass)) (negated : Bool)
  | operation (op : SetOp) (left : Nested Text.CharClass)

/-- The union of the items of a bracket. -/
def unionOf (items : List (Nested Text.CharClass)) : Nested Text.CharClass :=
  ⟨.unions (items.reverse.map (·.body)), joinedDepth (items.map (·.depth))⟩

/-- Completes the operation that awaits its right side, if there is one. -/
def completeOp (fl : Flags) (right : Nested Text.CharClass) :
    List BracketFrame → Nested Text.CharClass × List BracketFrame
  | .operation op left :: frames =>
    (⟨op.apply (fl.fold left.body) (fl.fold right.body), max left.depth right.depth + 1⟩, frames)
  | frames => (right, frames)

/-- The named classes of ASCII. -/
def asciiClasses : List (String × Text.CodePoints) :=
  [("alnum", .read ["30-39 41-5A 61-7A"]), ("alpha", .read ["41-5A 61-7A"]), ("ascii", .read ["0-7F"]),
    ("blank", .read ["9 20"]), ("cntrl", .read ["0-1F 7F"]), ("digit", .read ["30-39"]),
    ("graph", .read ["21-7E"]), ("lower", .read ["61-7A"]), ("print", .read ["20-7E"]),
    ("punct", .read ["21-2F 3A-40 5B-60 7B-7E"]), ("space", .read ["9-D 20"]),
    ("upper", .read ["41-5A"]), ("word", .read ["30-39 41-5A 5F 61-7A"]),
    ("xdigit", .read ["30-39 41-46 61-66"])]

/-- Reads a named class, such as `:alpha:]` or `:^alpha:]`, after its bracket. -/
def asciiClass? (cs : List Char) : Option (Bool × Text.CodePoints × List Char) :=
  match cs with
  | ':' :: rest =>
    let (negated, rest) := match rest with
      | '^' :: rest => (true, rest)
      | _ => (false, rest)
    match rest.dropWhile (· != ':') with
    | ':' :: ']' :: after =>
      (asciiClasses.lookup (String.ofList (rest.takeWhile (· != ':')))).map fun s =>
        (negated, s, after)
    | _ => none
  | _ => none

/-- The hyphens that open a bracket stand for themselves. -/
def takeHyphens (free : Bool) (comment : Bool) : List Char → Nat × List Char
  | [] => (0, [])
  | c :: cs =>
    if free && comment then takeHyphens free (c != '\n') cs
    else if free && Text.isBlank c then takeHyphens free false cs
    else if free && c = '#' then takeHyphens free true cs
    else if c = '-' then (fun (n, rest) => (n + 1, rest)) (takeHyphens free false cs)
    else (0, c :: cs)

/-- Reads the start of a bracket after it: whether it is negated, and the hyphens or the closing
bracket that stand for themselves there. -/
def openBracket (fl : Flags) (cs : List Char) :
    Option (Bool × List (Nested Text.CharClass) × List Char) :=
  let (negated, cs) := match fl.skip cs with
    | '^' :: rest => (true, fl.skip rest)
    | rest => (false, rest)
  let (hyphens, rest) := takeHyphens fl.free false cs
  let items := List.replicate hyphens ⟨.single '-', 0⟩
  match items, rest with
  | _, [] => none
  | [], ']' :: rest =>
    if fl.skip rest = [] then none else some (negated, [⟨.single ']', 0⟩], fl.skip rest)
  | items, rest => some (negated, items, rest)

/-- The next character that is neither a blank nor the sign of a comment. -/
def peek (fl : Flags) (cs : List Char) : Option Char :=
  if !fl.free then cs.head?
  else match cs.dropWhile Text.isBlank with
    | '#' :: rest => (rest.dropWhile Text.isBlank).head?
    | rest => rest.head?

/-- Reads one character or escape. -/
def readPrimitive (fl : Flags) : List Char → Option (Primitive × List Char)
  | [] => none
  | '\\' :: cs => readEscape fl cs
  | c :: cs => some (.char c false, cs)

/-- The character at the end of a range; without wide characters it is one of ASCII. -/
def Primitive.bound? (fl : Flags) : Primitive → Option Char
  | .char c _ => if fl.wide || c.toNat < 128 then some c else none
  | _ => none

/-- The class of a unit of a bracket. -/
def Primitive.cls? (fl : Flags) : Primitive → Option Text.CharClass
  | .cls s => some s
  | p => (p.bound? fl).map .single

/-- Reads a unit of a bracket, or a range between two. -/
def readItem (fl : Flags) (cs : List Char) : Option (Text.CharClass × List Char) := do
  let (first, rest) ← readPrimitive fl cs
  match fl.skip rest with
  | [] => none
  | '-' :: after =>
    if peek fl after = some ']' || peek fl after = some '-' then
      return (← first.cls? fl, '-' :: after)
    else
      let (last, rest) ← readPrimitive fl (fl.skip after)
      let a ← first.bound? fl
      let b ← last.bound? fl
      if b < a then none else return (.points (.span a.toNat b.toNat), rest)
  | rest => return (← first.cls? fl, rest)

/-- Reads a bracket to its end. `frames` holds what is open, innermost first, and `items` what has
been read of the innermost, in reverse. -/
def readBracketFrom (fl : Flags) :
    Nat → List BracketFrame → List (Nested Text.CharClass) → List Char →
      Option (Nested Text.CharClass × List Char)
  | 0, _, _, _ => none
  | fuel + 1, frames, items, cs =>
    let operate (op : SetOp) (rest : List Char) :=
      let (left, frames) := completeOp fl (unionOf items) frames
      readBracketFrom fl fuel (.operation op left :: frames) [] rest
    match fl.skip cs with
    | [] => none
    | '[' :: rest =>
      match asciiClass? rest with
      | some (negated, s, after) => do
        let cls ← fl.close negated (.points s)
        readBracketFrom fl fuel frames (⟨cls, 0⟩ :: items) after
      | none => do
        let (negated, first, rest) ← openBracket fl rest
        readBracketFrom fl fuel (.bracket items negated :: frames) first rest
    | ']' :: rest =>
      match completeOp fl (unionOf items) frames with
      | (inner, .bracket outer negated :: frames) => do
        let done : Nested Text.CharClass := ⟨← fl.close negated inner.body, inner.depth + 1⟩
        if frames.isEmpty then return (done, rest)
        else readBracketFrom fl fuel frames (done :: outer) rest
      | _ => none
    | '&' :: '&' :: rest => operate .inter rest
    | '-' :: '-' :: rest => operate .diff rest
    | '~' :: '~' :: rest => operate .symmDiff rest
    | rest => do
      let (cls, rest) ← readItem fl rest
      readBracketFrom fl fuel frames (⟨cls, 0⟩ :: items) rest

/-- Reads a bracketed class after its opening bracket. Every round takes a character. -/
def readBracket (fl : Flags) (cs : List Char) : Option (Nested Text.CharClass × List Char) := do
  let (negated, first, rest) ← openBracket fl cs
  readBracketFrom fl (rest.length + 1) [.bracket [] negated] first rest

end ClassificationKey.Pattern
