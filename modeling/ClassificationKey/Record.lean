import ClassificationKey.Text.UpperCase
import ClassificationKey.Value
import Std.Data.ExtTreeMap

/-!
# Records

A record maps attribute names to values; a row of a table is a record too. Names are normalised,
trimmed and upper-cased, on the way in and on every look-up, and the last value written under a name
stays. Two records with the same cells are equal, whatever the order of writing.
-/

namespace ClassificationKey

/-- The cells of a record, by normalised name. -/
structure Record where
  cells : Std.ExtTreeMap String Value

namespace Record

/-- The form under which a name is stored. -/
def normalise (name : String) : String := Text.upper (Text.trim name)

def empty : Record := ⟨∅⟩

/-- Writes a cell, replacing what stood under the same name. -/
def set (r : Record) (name : String) (v : Value) : Record := ⟨r.cells.insert (normalise name) v⟩

/-- The record that results from writing the pairs in turn. -/
def ofList (pairs : List (String × Value)) : Record :=
  pairs.foldl (fun r pair => r.set pair.1 pair.2) empty

def get? (r : Record) (name : String) : Option Value := r.cells[normalise name]?

/-- The value of a cell that is not blank. -/
def field? (r : Record) (name : String) : Option Value := (r.get? name).filter (!·.isBlank)

def contains (r : Record) (name : String) : Bool := (r.get? name).isSome

def size (r : Record) : Nat := r.cells.size

def isEmpty (r : Record) : Bool := r.cells.isEmpty

/-- The cells in ascending order of their names. -/
def toList (r : Record) : List (String × Value) := r.cells.toList

/-- Do the records have the same names, with values that are the same? -/
def same (r t : Record) : Bool :=
  r.size == t.size && r.toList.all fun cell =>
    match t.cells[cell.1]? with
    | some v => cell.2.same v
    | none => false

/-- The cells as text, in ascending order of their names. -/
def display (r : Record) : String :=
  "\x7b" ++ ", ".intercalate (r.toList.map fun cell => cell.1 ++ ": " ++ cell.2.display) ++ "\x7d"

@[simp] theorem get?_empty (name : String) : empty.get? name = none := by
  simp [get?, empty]

theorem get?_set (r : Record) (name key : String) (v : Value) :
    (r.set name v).get? key = if normalise name = normalise key then some v else r.get? key := by
  simp [get?, set, Std.ExtTreeMap.getElem?_insert]

@[simp] theorem get?_set_self (r : Record) (name : String) (v : Value) :
    (r.set name v).get? name = some v := by
  simp [get?_set]

@[ext] theorem ext {r t : Record} (h : ∀ name : String, r.cells[name]? = t.cells[name]?) : r = t := by
  cases r; cases t
  congr
  exact Std.ExtTreeMap.ext_getElem? h

end Record

end ClassificationKey
