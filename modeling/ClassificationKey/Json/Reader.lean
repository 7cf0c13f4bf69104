import ClassificationKey.Json.Basic

/-!
# Reading JSON

The reader takes a whole text: one document with blanks around it, and nothing after it.
-/

namespace ClassificationKey.Json

def isBlank (c : Char) : Bool := c == ' ' || c == '\n' || c == '\t' || c == '\r'

def skip (cs : List Char) : List Char := cs.dropWhile isBlank

/-! ### Strings -/

/-- The value of a hexadecimal digit. -/
def hexDigit? (c : Char) : Option Nat :=
  if c.isDigit then some (c.toNat - '0'.toNat)
  else if 'a' ≤ c && c ≤ 'f' then some (c.toNat - 'a'.toNat + 10)
  else if 'A' ≤ c && c ≤ 'F' then some (c.toNat - 'A'.toNat + 10)
  else none

/-- The unit that four hexadecimal digits write. -/
def hexUnit? (a b c d : Char) : Option Nat := do
  return ((← hexDigit? a) * 16 + (← hexDigit? b)) * 256 + (← hexDigit? c) * 16 + (← hexDigit? d)

/-- The characters of a string, or none if it holds half a surrogate pair. -/
abbrev Content := Option (List Char)

def Content.push (c : Char) (content : Content) : Content := content.map (c :: ·)

/-- The character that an escape of one letter writes. -/
def escaped? : Char → Option Char
  | '"' => some '"'
  | '\\' => some '\\'
  | '/' => some '/'
  | 'b' => some '\x08'
  | 'f' => some '\x0c'
  | 'n' => some '\n'
  | 'r' => some '\r'
  | 't' => some '\t'
  | _ => none

/-- Reads a string after its opening quote. `high` is the first unit of a surrogate pair whose second
must come next. -/
def readString (high : Option Nat) : List Char → Option (Content × List Char)
  | [] => none
  | '"' :: cs => some (if high.isSome then none else some [], cs)
  | '\\' :: 'u' :: a :: b :: c :: d :: cs => do
    let unit ← hexUnit? a b c d
    match high with
    | some h =>
      if 0xDC00 ≤ unit && unit ≤ 0xDFFF then
        let (content, rest) ← readString none cs
        return (Content.push (Char.ofNat (0x10000 + (h - 0xD800) * 0x400 + (unit - 0xDC00))) content,
          rest)
      else
        let (_, rest) ← readString none cs
        return (none, rest)
    | none =>
      if 0xD800 ≤ unit && unit ≤ 0xDBFF then readString (some unit) cs
      else
        let (content, rest) ← readString none cs
        if 0xDC00 ≤ unit && unit ≤ 0xDFFF then return (none, rest)
        else return (Content.push (Char.ofNat unit) content, rest)
  | '\\' :: c :: cs => do
    let ch ← escaped? c
    let (content, rest) ← readString none cs
    return (if high.isSome then none else Content.push ch content, rest)
  | c :: cs =>
    if c.toNat < 0x20 || c = '\\' then none
    else do
      let (content, rest) ← readString none cs
      return (if high.isSome then none else Content.push c content, rest)

/-! ### Documents -/

/-- A member of an object as it is read, its name possibly of no value. -/
abbrev ReadMember := Content × Json

/-- An object, which is void if the name of a member is. -/
def objectOf (members : List ReadMember) : Json :=
  match members.mapM fun member => member.1.map fun name => (String.ofList name, member.2) with
  | some members => .object members
  | none => .void

mutual

/-- Reads a document. Every call takes a character, and `fuel` is more than there are. -/
def readDocument : Nat → List Char → Option (Json × List Char)
  | 0, _ => none
  | fuel + 1, cs =>
    match skip cs with
    | 'n' :: 'u' :: 'l' :: 'l' :: rest => some (.null, rest)
    | 't' :: 'r' :: 'u' :: 'e' :: rest => some (.bool true, rest)
    | 'f' :: 'a' :: 'l' :: 's' :: 'e' :: rest => some (.bool false, rest)
    | '"' :: rest => (readString none rest).map fun (content, rest) =>
      match content with
      | some s => (.text (String.ofList s), rest)
      | none => (.void, rest)
    | '[' :: rest =>
      match skip rest with
      | ']' :: rest => some (.array [], rest)
      | rest => (readItems fuel rest).map fun (items, rest) => (.array items, rest)
    | '\x7b' :: rest =>
      match skip rest with
      | '\x7d' :: rest => some (.object [], rest)
      | rest => (readMembers fuel rest).map fun (members, rest) => (objectOf members, rest)
    | rest => (splitNumber? rest).map fun (t, rest) => (t.toJson, rest)

/-- Reads the items of an array to its end. -/
def readItems : Nat → List Char → Option (List Json × List Char)
  | 0, _ => none
  | fuel + 1, cs =>
    match readDocument fuel cs with
    | none => none
    | some (item, rest) =>
      match skip rest with
      | ']' :: rest => some ([item], rest)
      | ',' :: rest => (readItems fuel rest).map fun (items, rest) => (item :: items, rest)
      | _ => none

/-- Reads the members of an object to its end. -/
def readMembers : Nat → List Char → Option (List ReadMember × List Char)
  | 0, _ => none
  | fuel + 1, cs =>
    match skip cs with
    | '"' :: rest =>
      match readString none rest with
      | none => none
      | some (name, rest) =>
        match skip rest with
        | ':' :: rest =>
          match readDocument fuel rest with
          | none => none
          | some (value, rest) =>
            match skip rest with
            | '\x7d' :: rest => some ([(name, value)], rest)
            | ',' :: rest =>
              (readMembers fuel rest).map fun (members, rest) => ((name, value) :: members, rest)
            | _ => none
        | _ => none
    | _ => none

end

/-- Reads a text as one document. -/
def read? (s : String) : Option Json :=
  let cs := s.toList
  match readDocument (2 * cs.length + 2) cs with
  | some (json, rest) => if skip rest = [] then some json else none
  | none => none

end ClassificationKey.Json
