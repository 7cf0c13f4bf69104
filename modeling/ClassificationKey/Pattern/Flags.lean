import ClassificationKey.Text.Blank
import ClassificationKey.Text.CharClass

/-!
# Flags of a pattern

Flags are set inside a pattern, by `(?i)` for the rest of a group or by `(?i: )` for a group, and
change how what follows is read. Every pattern starts out ignoring case.
-/

namespace ClassificationKey.Pattern

/-- How a pattern is read at some place in it. -/
structure Flags where
  ignoreCase : Bool := true
  multiLine : Bool := false
  dotAll : Bool := false
  /-- Is a character a code point, and not one of ASCII only? -/
  wide : Bool := true
  carriage : Bool := false
  /-- Are blanks and comments skipped? -/
  free : Bool := false
  deriving DecidableEq, Repr

/-- The flags by their letters; greed has no meaning for whether a pattern occurs. -/
inductive Flag where
  | ignoreCase
  | multiLine
  | dotAll
  | swapGreed
  | wide
  | carriage
  | free
  deriving DecidableEq, Repr

def Flag.ofLetter? : Char → Option Flag
  | 'i' => some .ignoreCase
  | 'm' => some .multiLine
  | 's' => some .dotAll
  | 'U' => some .swapGreed
  | 'u' => some .wide
  | 'R' => some .carriage
  | 'x' => some .free
  | _ => none

def Flags.set (fl : Flags) : Flag → Bool → Flags
  | .ignoreCase, b => { fl with ignoreCase := b }
  | .multiLine, b => { fl with multiLine := b }
  | .dotAll, b => { fl with dotAll := b }
  | .swapGreed, _ => fl
  | .wide, b => { fl with wide := b }
  | .carriage, b => { fl with carriage := b }
  | .free, b => { fl with free := b }

/-- Settings of flags, read up to the colon or the parenthesis that ends them. A flag is named once,
and the minus before the flags to be cleared stands once and not last. -/
def readFlags (seen : List Flag) (clearing dangling : Bool) :
    List Char → Option (List (Flag × Bool) × Char × List Char)
  | [] => none
  | c :: cs =>
    if c = ':' || c = ')' then (if dangling then none else some ([], c, cs))
    else if c = '-' then (if clearing then none else readFlags seen true true cs)
    else (Flag.ofLetter? c).bind fun flag =>
      if seen.contains flag then none
      else (readFlags (flag :: seen) clearing false cs).map fun (settings, last, rest) =>
        ((flag, !clearing) :: settings, last, rest)

def Flags.setAll (fl : Flags) (settings : List (Flag × Bool)) : Flags :=
  settings.foldl (fun fl setting => fl.set setting.1 setting.2) fl

/-- Drops blanks, and comments from `#` to the end of the line; `comment` says whether one is under
way. -/
def dropFree (comment : Bool) : List Char → List Char
  | [] => []
  | c :: cs =>
    if comment then dropFree (c != '\n') cs
    else if Text.isBlank c then dropFree false cs
    else if c = '#' then dropFree true cs
    else c :: cs

/-- Drops blanks and comments where they do not count. -/
def Flags.skip (fl : Flags) (cs : List Char) : List Char := if fl.free then dropFree false cs else cs

/-- Closes a class under variants in case where case is ignored. -/
def Flags.fold (fl : Flags) (cls : Text.CharClass) : Text.CharClass :=
  if !fl.ignoreCase then cls else if fl.wide then .folded cls else .asciiFolded cls

/-- A class with its variants in case, complemented if negated. A class of ASCII must not reach
beyond it. -/
def Flags.close (fl : Flags) (negated : Bool) (cls : Text.CharClass) : Option Text.CharClass :=
  let closed := fl.fold cls
  let result := if negated then .complement closed else closed
  if fl.wide || result.avoidsHighBytes then some result else none

end ClassificationKey.Pattern
