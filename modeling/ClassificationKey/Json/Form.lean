import ClassificationKey.Classification
import ClassificationKey.Json.Basic

/-!
# JSON forms

How values, ids, couplets, records, classifications and settings are written as JSON, and read from it.
A structure is an object with a member for each field; members may come in any order, others are
ignored, and a field is given at most once. It may also be an array of its fields in order. Options
may be left out of an object or be null.
-/

namespace ClassificationKey

namespace Json

/-! ### Fields of structures -/

/-- A structure as it is being read: members by name, or items by position. -/
inductive Source where
  | members (ms : List (String × Json))
  | items (js : List Json)

/-- The source of a structure with the given fields, if no field is given twice and no item is in
excess. -/
def source? (fields : List String) : Json → Option Source
  | .object ms => if fields.all fun f => (membersNamed f ms).length ≤ 1 then some (.members ms) else none
  | .array js => if js.length ≤ fields.length then some (.items js) else none
  | _ => none

/-- The JSON of a field, by its name or its place. -/
def Source.get? (s : Source) (name : String) (place : Nat) : Option Json :=
  match s with
  | .members ms => (membersNamed name ms).head?
  | .items js => js[place]?

/-- A field that must be there. -/
def Source.required {α : Type} (s : Source) (read : Json → Option α) (name : String) (place : Nat) :
    Option α :=
  (s.get? name place).bind read

/-- A field that takes a default where it is missing. -/
def Source.optional {α : Type} (s : Source) (read : Json → Option α) (default : α) (name : String)
    (place : Nat) : Option α :=
  match s.get? name place with
  | none => some default
  | some json => read json

/-- An option; it may be missing among members, and not among items. -/
def Source.option {α : Type} (s : Source) (read : Json → Option (Option α)) (name : String)
    (place : Nat) : Option (Option α) :=
  match s with
  | .members _ => s.optional read none name place
  | .items _ => s.required read name place

/-! ### Plain data -/

def ofOption {α : Type} (write : α → Json) : Option α → Json
  | none => .null
  | some a => write a

/-- Null, or what `read` takes. -/
def toOption {α : Type} (read : Json → Option α) : Json → Option (Option α)
  | .null => some none
  | json => (read json).map some

def toText? : Json → Option String
  | .text s => some s
  | _ => none

def toBool? : Json → Option Bool
  | .bool b => some b
  | _ => none

/-- A natural number of 64 bits. -/
def toCount? : Json → Option Nat
  | .integer i => if 0 ≤ i && i < UInt64.size then some i.toNat else none
  | _ => none

def toList? {α : Type} (read : Json → Option α) : Json → Option (List α)
  | .array items => items.mapM read
  | _ => none

end Json

/-! ### Values and ids -/

/-- JSON has no number for a double that is not finite. -/
def Value.toJson : Value → Json
  | .integer i => .integer i.toInt
  | .float x => if x.isFinite then .float x else .null
  | .truth b => .bool b
  | .text s => .text s

/-- An integer beyond 64 bits is read as a double. -/
def Value.ofJson? : Json → Option Value
  | .integer i =>
    if Number.inRange i then some (.integer (Int64.ofInt i)) else some (.float (.ofInt i))
  | .float x => some (.float x)
  | .bool b => some (.truth b)
  | .text s => some (.text s)
  | _ => none

def CoupletId.toJson : CoupletId → Json
  | .number i => .integer i.toInt
  | .text s => .text s

def CoupletId.ofJson? : Json → Option CoupletId
  | .integer i => if Number.inRange i then some (.number (Int64.ofInt i)) else none
  | .text s => some (.text s)
  | _ => none

/-! ### Couplets -/

def CoupletKind.toJson (k : CoupletKind) : Json := .text k.display

def CoupletKind.ofName? (name : String) : Option CoupletKind :=
  [CoupletKind.root, .branch, .terminal].find? fun k => k.display == name

/-- A kind is its name, alone or as the only member of an object, with null for its content. -/
def CoupletKind.ofJson? : Json → Option CoupletKind
  | .text s => CoupletKind.ofName? s
  | .object [(name, .null)] => CoupletKind.ofName? name
  | _ => none

def Couplet.toJson (c : Couplet) : Json :=
  .object [("id", c.id.toJson), ("kind", c.kind.toJson), ("name", .text c.name),
    ("comment", .text c.comment)]

def Couplet.ofJson? (json : Json) : Option Couplet := do
  let s ← json.source? ["id", "kind", "name", "comment"]
  return {
    id := ← s.required CoupletId.ofJson? "id" 0
    kind := ← s.required CoupletKind.ofJson? "kind" 1
    name := ← s.required Json.toText? "name" 2
    comment := ← s.required Json.toText? "comment" 3 }

/-! ### Records -/

def Record.toJson (r : Record) : Json := .object (r.toList.map fun cell => (cell.1, cell.2.toJson))

/-- The members of an object are written in turn. -/
def Record.ofJson? : Json → Option Record
  | .object members =>
    (members.mapM fun member => (Value.ofJson? member.2).map fun v => (member.1, v)).map
      Record.ofList
  | _ => none

/-! ### Classifications -/

def Step.toJson (s : Step) : Json :=
  .object [("index", .integer s.index), ("couplet", s.couplet.toJson),
    ("record_id", Json.ofOption Value.toJson s.recordId)]

def Step.ofJson? (json : Json) : Option Step := do
  let s ← json.source? ["index", "couplet", "record_id"]
  return {
    index := ← s.required Json.toCount? "index" 0
    couplet := ← s.required Couplet.ofJson? "couplet" 1
    recordId := ← s.option (Json.toOption Value.ofJson?) "record_id" 2 }

def Classification.toJson (c : Classification) : Json :=
  .object [("result", c.result.toJson), ("steps", .array (c.steps.map Step.toJson)),
    ("record_id", Json.ofOption Value.toJson c.recordId)]

def Classification.ofJson? (json : Json) : Option Classification := do
  let s ← json.source? ["result", "steps", "record_id"]
  return {
    result := ← s.required Couplet.ofJson? "result" 0
    steps := ← s.required (Json.toList? Step.ofJson?) "steps" 1
    recordId := ← s.option (Json.toOption Value.ofJson?) "record_id" 2 }

/-! ### Settings -/

def Settings.toJson (s : Settings) : Json :=
  .object [("description", .text s.description), ("id_field", Json.ofOption .text s.idField),
    ("check_cycles", .bool s.checkCycles),
    ("max_steps", Json.ofOption (fun n : Nat => .integer n) s.maxSteps)]

/-- A setting that is left out has its default. -/
def Settings.ofJson? (json : Json) : Option Settings := do
  let s ← json.source? ["description", "id_field", "check_cycles", "max_steps"]
  let default : Settings := {}
  return {
    description := ← s.optional Json.toText? default.description "description" 0
    idField := ← s.optional (Json.toOption Json.toText?) default.idField "id_field" 1
    checkCycles := ← s.optional Json.toBool? default.checkCycles "check_cycles" 2
    maxSteps := ← s.optional (Json.toOption Json.toCount?) default.maxSteps "max_steps" 3 }

end ClassificationKey
