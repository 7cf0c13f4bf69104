import ClassificationKey.Error

/-!
# Rows of tables

The cells of a row are read by column. A blank cell counts as none, and texts are trimmed.
-/

namespace ClassificationKey

namespace Record

/-- The cell of a column that must be filled. -/
def required (row : Record) (column : String) : Except DefinitionError Value :=
  match row.field? column with
  | some v => .ok v
  | none => .error (.missingField column)

/-- The text of a column that must be filled. -/
def requiredText (row : Record) (column : String) : Except DefinitionError String := do
  return Text.trim (← row.required column).toText

/-- The text of a column that may be left out. -/
def optionalText (row : Record) (column : String) : String :=
  match row.field? column with
  | some v => Text.trim v.toText
  | none => ""

end Record

/-- An error of a row, with its place and its content. -/
def DefinitionError.inRow (table : TableName) (index : Nat) (row : Record) (e : DefinitionError) :
    DefinitionError :=
  .row table index row.display e

/-- The results of `f` on numbered elements, or its first error. -/
def mapNumbered {α β ε : Type} (f : Nat → α → Except ε β) (start : Nat) :
    List α → Except ε (List β)
  | [] => .ok []
  | a :: as =>
    match f start a with
    | .error e => .error e
    | .ok b =>
      match mapNumbered f (start + 1) as with
      | .error e => .error e
      | .ok bs => .ok (b :: bs)

/-- Folds `f` over numbered elements up to its first error. -/
def foldNumbered {α β ε : Type} (f : Nat → β → α → Except ε β) (start : Nat) (b : β) :
    List α → Except ε β
  | [] => .ok b
  | a :: as =>
    match f start b a with
    | .error e => .error e
    | .ok b => foldNumbered f (start + 1) b as

end ClassificationKey
