import ClassificationKey.Error
import ClassificationKey.Pattern.Bracket
import ClassificationKey.Pattern.Search

/-!
# Reading a pattern

The reader takes the pattern piece by piece: it holds the pieces of the row under way, the finished
alternatives before it, and below them those of every group still open. Groups neither capture nor
look around; a group may have a name, which must be new.
-/

namespace ClassificationKey.Pattern

/-- A piece of a row. A setting of flags takes a place in its row but cannot be repeated. -/
structure Piece where
  node : Node
  depth : Nat
  isSetting : Bool := false

/-- What was read around an open group. -/
structure Group where
  flags : Flags
  finished : List Piece
  row : List Piece

/-- What has been read so far, all lists in reverse. -/
structure Progress where
  flags : Flags := {}
  finished : List Piece := []
  row : List Piece := []
  outer : List Group := []
  names : List (List Char) := []

/-- How deep groups, repetitions, rows, alternatives and brackets may be nested. -/
def depthLimit : Nat := 250

/-- The row under way as one piece. -/
def closeRow (row : List Piece) : Piece :=
  ⟨.rows (row.reverse.map (·.node)), joinedDepth (row.map (·.depth)), false⟩

/-- The alternatives with the row under way as one piece. -/
def Progress.close (st : Progress) : Piece :=
  let all := closeRow st.row :: st.finished
  ⟨.alternatives (all.reverse.map (·.node)), joinedDepth (all.map (·.depth)), false⟩

def Progress.push (st : Progress) (node : Node) (depth : Nat) : Progress :=
  { st with row := ⟨node, depth, false⟩ :: st.row }

/-! ### Units -/

/-- The node of a unit outside brackets. A byte beyond ASCII is no character. -/
def Primitive.node? (fl : Flags) : Primitive → Option Node
  | .char c byte =>
    if !fl.wide && byte && 128 ≤ c.toNat then none else some (.char (fl.fold (.single c)))
  | .cls s => some (.char s)
  | .assertion a => some (.assertion a)

/-- The dot: any character, or any that ends no line. -/
def dot? (fl : Flags) : Option Node :=
  if !fl.wide then none
  else if fl.dotAll then some (.char (.complement .empty))
  else if fl.carriage then
    some (.char (.complement (.union (.single '\n') (.single '\r'))))
  else some (.char (.complement (.single '\n')))

def lineStart (fl : Flags) : Node :=
  .assertion (if fl.multiLine then .lineStart fl.carriage else .textStart)

def lineEnd (fl : Flags) : Node :=
  .assertion (if fl.multiLine then .lineEnd fl.carriage else .textEnd)

/-! ### Repetitions -/

/-- Drops the mark of a reluctant repetition. -/
def dropReluctance : List Char → List Char
  | '?' :: cs => cs
  | cs => cs

/-- Repeats the last piece of the row, which must be there and must not be a setting of flags. -/
def Progress.repeat? (st : Progress) (least : Nat) (most : Option Nat) : Option Progress :=
  match st.row with
  | [] => none
  | last :: row =>
    if last.isSetting then none
    else some { st with row := ⟨.repeated last.node least most, last.depth + 1, false⟩ :: row }

/-- Takes decimal digits, leaving out blanks and comments where they do not count. -/
def takeDigits (free comment : Bool) : List Char → List Char × List Char
  | [] => ([], [])
  | c :: cs =>
    if free && comment then takeDigits free (c != '\n') cs
    else if free && Text.isBlank c then takeDigits free false cs
    else if free && c = '#' then takeDigits free true cs
    else if c.isDigit then (fun (ds, rest) => (c :: ds, rest)) (takeDigits free false cs)
    else ([], c :: cs)

/-- Reads a count of a repetition, of at most 32 bits, with blanks around it. -/
def readCount (fl : Flags) (cs : List Char) : Option (Nat × List Char) :=
  let (ds, rest) := takeDigits fl.free false (cs.dropWhile Text.isBlank)
  if ds = [] || UInt32.size ≤ Number.digitsValue ds then none
  else some (Number.digitsValue ds, rest.dropWhile Text.isBlank)

/-- Reads the bounds of a repetition after the opening brace. -/
def readBounds (fl : Flags) (cs : List Char) : Option (Nat × Option Nat × List Char) := do
  let (least, rest) ← readCount fl (fl.skip cs)
  match rest with
  | '\x7d' :: rest => return (least, some least, rest)
  | ',' :: rest =>
    match fl.skip rest with
    | '\x7d' :: rest => return (least, none, rest)
    | rest =>
      match ← readCount fl rest with
      | (most, '\x7d' :: rest) => if most < least then none else return (least, some most, rest)
      | _ => none
  | _ => none

/-! ### Groups -/

/-- May the character stand in the name of a group? -/
def isNameChar (first : Bool) (c : Char) : Bool :=
  c == '_' || (if first then Text.isAlphabetic c
    else c == '.' || c == '[' || c == ']' || Text.isAlphanumeric c)

/-- Reads the name of a group up to the closing angle bracket. -/
def readGroupName (cs : List Char) : Option (List Char × List Char) :=
  let name := cs.takeWhile (· != '>')
  match name, cs.dropWhile (· != '>') with
  | first :: others, _ :: rest =>
    if isNameChar true first && others.all (isNameChar false) then some (name, rest) else none
  | _, _ => none

/-- Opens a group in which the given flags hold. -/
def Progress.enter (st : Progress) (inside : Flags) : Progress :=
  { st with
    flags := inside
    finished := []
    row := []
    outer := ⟨st.flags, st.finished, st.row⟩ :: st.outer }

/-- Opens a group with a name. -/
def Progress.openNamed (st : Progress) (cs : List Char) : Option (Progress × List Char) := do
  let (name, rest) ← readGroupName cs
  if st.names.contains name then none
  else return ({ st.enter st.flags with names := name :: st.names }, rest)

/-- Reads the start of a group, or a setting of flags, after the opening parenthesis. -/
def Progress.readGroup (st : Progress) (cs : List Char) : Option (Progress × List Char) :=
  match st.flags.skip cs with
  | '?' :: '=' :: _ => none
  | '?' :: '!' :: _ => none
  | '?' :: '<' :: '=' :: _ => none
  | '?' :: '<' :: '!' :: _ => none
  | '?' :: 'P' :: '<' :: rest => st.openNamed rest
  | '?' :: '<' :: rest => st.openNamed rest
  | '?' :: rest => do
    let (settings, last, rest) ← readFlags [] false false rest
    let inside := st.flags.setAll settings
    if last = ':' then return (st.enter inside, rest)
    else if settings = [] then none
    else return ({ st with flags := inside, row := ⟨.empty, 0, true⟩ :: st.row }, rest)
  | rest => some (st.enter st.flags, rest)

/-- Closes the innermost group. -/
def Progress.closeGroup (st : Progress) : Option Progress :=
  match st.outer with
  | [] => none
  | group :: outer =>
    let inner := st.close
    some { st with
      flags := group.flags
      finished := group.finished
      row := ⟨inner.node, inner.depth + 1, false⟩ :: group.row
      outer := outer }

/-! ### The reader -/

/-- Takes one piece, which starts with the given character. -/
def Progress.step (st : Progress) (c : Char) (cs : List Char) : Option (Progress × List Char) :=
  match c with
  | '(' => st.readGroup cs
  | ')' => st.closeGroup.map (·, cs)
  | '|' => some ({ st with finished := closeRow st.row :: st.finished, row := [] }, cs)
  | '[' => (readBracket st.flags cs).map fun (bracket, rest) =>
    (st.push (.char bracket.body) bracket.depth, rest)
  | '?' => (st.repeat? 0 (some 1)).map (·, dropReluctance cs)
  | '*' => (st.repeat? 0 none).map (·, dropReluctance cs)
  | '+' => (st.repeat? 1 none).map (·, dropReluctance cs)
  | '\x7b' => do
    let (least, most, rest) ← readBounds st.flags cs
    return (← st.repeat? least most, dropReluctance (st.flags.skip rest))
  | '.' => (dot? st.flags).map fun node => (st.push node 0, cs)
  | '^' => some (st.push (lineStart st.flags) 0, cs)
  | '$' => some (st.push (lineEnd st.flags) 0, cs)
  | c => do
    let (p, rest) ← readPrimitive st.flags (c :: cs)
    return (st.push (← p.node? st.flags) 0, rest)

/-- The pattern read, if every group is closed, none is nested too deep, and there is room for it. -/
def Progress.finish (st : Progress) : Option Node :=
  let whole := st.close
  if st.outer.isEmpty && whole.depth ≤ depthLimit && whole.node.room ≤ Node.roomLimit then
    some whole.node
  else none

/-- Reads pieces to the end. Every round takes a character. -/
def readFrom : Nat → Progress → List Char → Option Node
  | 0, _, _ => none
  | fuel + 1, st, cs =>
    match st.flags.skip cs with
    | [] => st.finish
    | c :: rest => (st.step c rest).bind fun (st, rest) => readFrom fuel st rest

/-- The pattern that a text writes. -/
def ofChars? (cs : List Char) : Option Node := readFrom (cs.length + 1) {} cs

end ClassificationKey.Pattern

namespace ClassificationKey

/-- A pattern with the text it was read from. -/
structure Pattern where
  source : String
  node : Pattern.Node
  deriving DecidableEq, Repr

namespace Pattern

/-- Reads a pattern. -/
def parse (s : String) : Except SyntaxError Pattern :=
  match ofChars? s.toList with
  | some node => .ok ⟨s, node⟩
  | none => .error ⟨s, .malformed⟩

/-- Does the pattern occur in the text? -/
def occursIn (p : Pattern) (text : String) : Bool := p.node.occursIn text.toList

end Pattern

end ClassificationKey
