import ClassificationKey.Text.CodePoints

/-!
# Blanks

White space as the `White_Space` property has it, and the trimming of a text by it. A text is
*trimmed* when it neither starts nor ends with a blank; `trim` is the only way texts are cleaned
anywhere in the library.
-/

namespace ClassificationKey.Text

/-- The characters with the property `White_Space`. -/
def isBlank (c : Char) : Bool :=
  let n := c.toNat
  (9 ≤ n && n ≤ 13) || n == 0x20 || n == 0x85 || n == 0xA0 || n == 0x1680 ||
    (0x2000 ≤ n && n ≤ 0x200A) || n == 0x2028 || n == 0x2029 || n == 0x202F || n == 0x205F ||
    n == 0x3000

/-- Space, tab, line feed, form feed and carriage return: the blanks that may stand between the
words of an expression. -/
def isSeparator (c : Char) : Bool :=
  c == ' ' || c == '\t' || c == '\n' || c == '\x0c' || c == '\r'

/-- Drops the blanks at both ends. -/
def trimChars (cs : List Char) : List Char :=
  ((cs.dropWhile isBlank).reverse.dropWhile isBlank).reverse

/-- Drops the blanks at both ends. -/
def trim (s : String) : String := String.ofList (trimChars s.toList)

theorem isBlank_of_isDigit {c : Char} (h : c.isDigit = true) : isBlank c = false := by
  have hranges : (decide (48 ≤ c.val) && decide (c.val ≤ 57)) = true := h
  have hn : c.toNat = c.val.toNat := rfl
  simp [UInt32.le_iff_toNat_le] at hranges
  simp [isBlank]
  omega

@[simp] theorem toList_trim (s : String) : (trim s).toList = trimChars s.toList := by
  simp [trim]

end ClassificationKey.Text
