import ClassificationKey.Guard.Basic
import ClassificationKey.Number.Decimal
import ClassificationKey.Text.Blank
import ClassificationKey.Text.Property

/-!
# Tokens of a guard's text

A guard is written with parentheses, the words `and`, `or` and `not`, and rule numbers. Words are
maximal runs of word characters, so `not1` and `12abc` are each one word, and no token. Between
tokens stand separators; any other character refuses the text.
-/

namespace ClassificationKey.Guard

/-- One token of a guard's text. -/
inductive Token where
  | opening
  | closing
  | and
  | or
  | not
  | rule (id : RuleId)
  deriving DecidableEq, Repr

/-- Reads a rule number: decimal digits without a leading zero, unless all of them are zeros, that
fit a `RuleId`. -/
def ruleId? (word : List Char) : Option RuleId :=
  if word ≠ [] && word.all Char.isDigit && (word.head? != some '0' || word.all (· == '0')) &&
      Number.digitsValue word < UInt32.size then
    some (UInt32.ofNat (Number.digitsValue word))
  else none

/-- The token that a whole word is. -/
def Token.ofWord? (word : List Char) : Option Token :=
  if word = ['a', 'n', 'd'] then some .and
  else if word = ['o', 'r'] then some .or
  else if word = ['n', 'o', 't'] then some .not
  else (ruleId? word).map .rule

/-- Puts the word under way, held in reverse, before the tokens that follow it. -/
def Token.close (word : List Char) (rest : List Token) : Option (List Token) :=
  if word = [] then some rest else (Token.ofWord? word.reverse).map (· :: rest)

/-- Splits a text into tokens; `word` is the word under way, in reverse. -/
def Token.scanFrom (word : List Char) : List Char → Option (List Token)
  | [] => Token.close word []
  | c :: cs =>
    if Text.isWordChar c then Token.scanFrom (c :: word) cs
    else if Text.isSeparator c then (Token.scanFrom [] cs).bind (Token.close word)
    else if c = '(' then (Token.scanFrom [] cs).bind fun ts => Token.close word (.opening :: ts)
    else if c = ')' then (Token.scanFrom [] cs).bind fun ts => Token.close word (.closing :: ts)
    else none

/-- The tokens of a text, if it holds nothing but tokens and separators. -/
def Token.scan? (cs : List Char) : Option (List Token) := Token.scanFrom [] cs

end ClassificationKey.Guard
