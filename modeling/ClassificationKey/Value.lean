import ClassificationKey.Number.Decimal
import ClassificationKey.Number.Layout
import ClassificationKey.Text.Blank

/-!
# Values

The value of an attribute of a record, and of a cell of a table: an integer, a double, a truth value
or a text. Rules compare the *text form* of a value, and ids are read off its *integer form*.
-/

namespace ClassificationKey

/-- The value of an attribute. -/
inductive Value where
  | integer (i : Int64)
  | float (x : Binary64)
  | truth (b : Bool)
  | text (s : String)
  deriving DecidableEq, Repr

namespace Value

/-- Doubles from `1e-4` up to `1e16` are written in place, with at least one digit behind the
point. -/
def floatLayout : Number.Layout := ⟨-4, 16⟩

/-- The text of a double. An exponent has a sign and at least two digits. -/
def floatText (x : Binary64) : String :=
  String.ofList (Number.signExponent 2 (floatLayout.write x).toList)

/-- The text form. -/
def toText : Value → String
  | .integer i => toString i.toInt
  | .float x => floatText x
  | .truth b => if b then "true" else "false"
  | .text s => s

/-- The text form, a text being quoted. -/
def display : Value → String
  | .text s => "\"" ++ s ++ "\""
  | v => v.toText

/-- A text of blanks only. No other value is blank. -/
def isBlank : Value → Bool
  | .text s => Text.trim s == ""
  | _ => false

/-- The integer nearest to `x` in the range of 64 bits, when a double of that integer equals `x`.
The first double above the range is therefore read as the greatest integer in it. -/
def wholeNumber? (x : Binary64) : Option Int64 :=
  x.whole?.bind fun i =>
    let nearest := Int64.ofInt (max Int64.minValue.toInt (min i Int64.maxValue.toInt))
    if Binary64.eq (.ofInt nearest.toInt) x then some nearest else none

/-- The integer form: an integer, a double that is one, or a text that writes either. -/
def toInteger? : Value → Option Int64
  | .integer i => some i
  | .float x => wholeNumber? x
  | .truth _ => none
  | .text s =>
    let cs := Text.trimChars s.toList
    (Number.readInteger? cs).or ((Number.readBinary64? cs).bind wholeNumber?)

/-- Equality of attributes: doubles compare as numbers, values of different kinds differ. -/
def same : Value → Value → Bool
  | .integer i, .integer j => i == j
  | .float x, .float y => x.eq y
  | .truth a, .truth b => a == b
  | .text s, .text t => s == t
  | _, _ => false

example : (Value.float (.ofNat 5)).toText = "5.0" := by decide +kernel

example : (Value.text " 34.0 ").toInteger? = some 34 := by decide +kernel

end Value

end ClassificationKey
