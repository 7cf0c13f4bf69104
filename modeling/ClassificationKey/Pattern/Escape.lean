import ClassificationKey.Number.Decimal
import ClassificationKey.Pattern.Basic
import ClassificationKey.Pattern.Flags

/-!
# Escapes

What may follow a backslash: a punctuation character that stands for itself, a control character, a
code point in hexadecimal, a class, or an assertion.
-/

namespace ClassificationKey.Pattern

/-- What one unit of a pattern denotes. A character written with two hexadecimal digits is marked,
since without wide characters it means a byte. -/
inductive Primitive where
  | char (c : Char) (byte : Bool)
  | cls (cls : Text.CharClass)
  | assertion (a : Assertion)
  deriving DecidableEq, Repr

/-! ### Code points -/

def isHex (c : Char) : Bool := c.isDigit || ('a' ≤ c && c ≤ 'f') || ('A' ≤ c && c ≤ 'F')

def hexValue (cs : List Char) : Nat :=
  cs.foldl (fun n c => 16 * n + Text.CodePoints.hexValue c.toUpper) 0

/-- The character of a code point that is one. -/
def charOf? (n : Nat) : Option Char := if n.isValidChar then some (Char.ofNat n) else none

/-- Takes a fixed number of hexadecimal digits. -/
def takeHex (fl : Flags) : Nat → List Char → Option (List Char × List Char)
  | 0, cs => some ([], cs)
  | k + 1, cs =>
    match fl.skip cs with
    | [] => none
    | c :: rest =>
      if isHex c then (takeHex fl k rest).map fun (ds, rest) => (c :: ds, rest) else none

/-- Takes what stands before a closing brace; blanks and comments are left out where they do not
count. -/
def takeBraced (free comment : Bool) : List Char → Option (List Char × List Char)
  | [] => none
  | c :: cs =>
    if free && comment then takeBraced free (c != '\n') cs
    else if free && Text.isBlank c then takeBraced free false cs
    else if free && c = '#' then takeBraced free true cs
    else if c = '\x7d' then some ([], cs)
    else (takeBraced free false cs).map fun (inner, rest) => (c :: inner, rest)

/-- Reads a code point: `width` digits, or any number of them in braces. -/
def readHex (fl : Flags) (width : Nat) (cs : List Char) : Option (Primitive × List Char) :=
  match fl.skip cs with
  | '\x7b' :: rest => do
    let (ds, rest) ← takeBraced fl.free false rest
    if ds = [] || !ds.all isHex then none
    else return (.char (← charOf? (hexValue ds)) false, rest)
  | rest => do
    let (ds, rest) ← takeHex fl width rest
    return (.char (← charOf? (hexValue ds)) (width == 2), rest)

/-! ### Classes -/

/-- The classes of digits, blanks and word characters, within ASCII or not. -/
def letterClass? (wide : Bool) : Char → Option Text.CharClass
  | 'd' => some (if wide then Text.ofCategories ["nd"] else .points (.span 0x30 0x39))
  | 's' => some (if wide then Text.ofTrait "wspace" else
      .points ((Text.CodePoints.span 9 13).union (.span 0x20 0x20)))
  | 'w' => some (if wide then Text.patternWord else
      .points ⟨[(0x30, 0x39), (0x41, 0x5A), (0x5F, 0x5F), (0x61, 0x7A)]⟩)
  | _ => none

/-- Complements a class if negated, which without wide characters reaches beyond ASCII. -/
def negate? (fl : Flags) (negated : Bool) (cls : Text.CharClass) : Option Text.CharClass :=
  if !negated then some cls else if fl.wide then some (.complement cls) else none

/-- Splits at the first occurrence of a separator. -/
def splitAt? (separator : List Char) : List Char → Option (List Char × List Char)
  | [] => if separator = [] then some ([], []) else none
  | c :: cs =>
    if separator.isPrefixOf (c :: cs) then some ([], (c :: cs).drop separator.length)
    else (splitAt? separator cs).map fun (front, back) => (c :: front, back)

/-- The class of a property, given by its name, or by its name and a value. -/
def propertyClass? (text : List Char) : Option Text.CharClass :=
  match splitAt? ['!', '='] text with
  | some (property, value) => Text.propertyValueClass? property value
  | none => match splitAt? [':'] text with
    | some (property, value) => Text.propertyValueClass? property value
    | none => match splitAt? ['='] text with
      | some (property, value) => Text.propertyValueClass? property value
      | none => Text.propertyClass? text

/-- Reads the name of a property, one letter or a name in braces. -/
def readProperty (fl : Flags) (negated : Bool) (cs : List Char) :
    Option (Primitive × List Char) := do
  if !fl.wide then none
  else
    let (name, rest) ← match fl.skip cs with
      | [] => none
      | '\x7b' :: rest => takeBraced fl.free false rest
      | '\\' :: _ => none
      | c :: rest => some ([c], rest)
    return (.cls (← fl.close negated (← propertyClass? name)), rest)

/-! ### Assertions -/

/-- The word characters that word assertions go by. -/
def Flags.word (fl : Flags) : Text.CharClass :=
  (letterClass? fl.wide 'w').getD .empty

/-- The name in braces after `\b`, if what follows the brace can be one. An open name that is no
assertion is an error, told apart from none by the outer option. -/
def readBoundary (fl : Flags) (cs : List Char) : Option (Primitive × List Char) :=
  let plain := some (Primitive.assertion (.wordBoundary fl.word), cs)
  match cs with
  | '\x7b' :: rest =>
    match fl.skip rest with
    | [] => none
    | c :: _ =>
      if c.isAlpha || c = '-' then do
        let (name, rest) ← takeBraced fl.free false rest
        let a ←
          if name = ['s', 't', 'a', 'r', 't'] then some (.wordStart fl.word)
          else if name = ['e', 'n', 'd'] then some (.wordEnd fl.word)
          else if name = ['s', 't', 'a', 'r', 't', '-', 'h', 'a', 'l', 'f'] then
            some (.noWordBefore fl.word)
          else if name = ['e', 'n', 'd', '-', 'h', 'a', 'l', 'f'] then some (.noWordAfter fl.word)
          else none
        return (.assertion a, rest)
      else plain
  | _ => plain

/-! ### Reading an escape -/

/-- May the character be escaped to stand for itself? All of ASCII may but letters, digits and
angle brackets. -/
def isEscapable (c : Char) : Bool :=
  c.toNat < 128 && !c.isAlphanum && c != '<' && c != '>'

/-- Reads what follows a backslash. -/
def readEscape (fl : Flags) : List Char → Option (Primitive × List Char)
  | [] => none
  | 'x' :: cs => readHex fl 2 cs
  | 'u' :: cs => readHex fl 4 cs
  | 'U' :: cs => readHex fl 8 cs
  | 'p' :: cs => readProperty fl false cs
  | 'P' :: cs => readProperty fl true cs
  | 'b' :: cs => readBoundary fl cs
  | c :: cs => (fun p => (p, cs)) <$>
    if isEscapable c then some (Primitive.char c false)
    else match letterClass? fl.wide c.toLower with
      | some cls => (negate? fl c.isUpper cls).map .cls
      | none => match c with
        | 'a' => some (.char '\x07' false)
        | 'f' => some (.char '\x0c' false)
        | 't' => some (.char '\t' false)
        | 'n' => some (.char '\n' false)
        | 'r' => some (.char '\r' false)
        | 'v' => some (.char '\x0b' false)
        | 'A' => some (.assertion .textStart)
        | 'z' => some (.assertion .textEnd)
        | 'B' => some (.assertion (.notWordBoundary fl.word))
        | '<' => some (.assertion (.wordStart fl.word))
        | '>' => some (.assertion (.wordEnd fl.word))
        | _ => none

end ClassificationKey.Pattern
