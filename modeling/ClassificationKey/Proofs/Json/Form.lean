import ClassificationKey.Proofs.Json.Reordering
import ClassificationKey.Proofs.Record
import Mathlib.Data.List.Perm.Basic

/-!
# What is saved is loaded

Storable data is loaded from its saved form, field by field: values and ids are told apart by the
kind of their JSON (`Value.loads_toJson`, `CoupletId.loads_toJson`), and a record is collected again
from its cells, whose names stay as they are (`Record.loads_toJson`).
-/

namespace ClassificationKey

open Json

/-! ## Storable data -/

/-- A double among the values is finite. -/
def Value.IsStorable : Value → Prop
  | .float x => x.isFinite = true
  | _ => True

/-- The names are normalised and the values storable. -/
structure Record.IsStorable (r : Record) : Prop where
  names : r.IsNormal
  values : ∀ cell ∈ r.toList, cell.2.IsStorable

/-- The index is a count of 64 bits. -/
structure Step.IsStorable (s : Step) : Prop where
  index : s.index < UInt64.size
  recordId : ∀ v ∈ s.recordId, v.IsStorable

structure Classification.IsStorable (c : Classification) : Prop where
  steps : ∀ s ∈ c.steps, s.IsStorable
  recordId : ∀ v ∈ c.recordId, v.IsStorable

/-- The bound is a count of 64 bits. -/
def Settings.IsStorable (s : Settings) : Prop := ∀ n ∈ s.maxSteps, n < UInt64.size

/-! ## Values and ids -/

theorem inRange_toInt (i : Int64) : Number.inRange i.toInt = true := by
  rw [Number.inRange, Bool.and_eq_true, decide_eq_true_eq, decide_eq_true_eq]
  exact ⟨i.minValue_le_toInt, i.toInt_le⟩

theorem Value.loads_toJson {v : Value} (h : v.IsStorable) : v.toJson.Loads Value.ofJson? v := by
  intro json hjson
  cases v with
  | integer i =>
    rw [toJson] at hjson
    cases hjson
    rw [ofJson?, if_pos (inRange_toInt i), Int64.ofInt_toInt]
  | float x =>
    have hfinite : x.isFinite = true := h
    rw [toJson, if_pos hfinite] at hjson
    cases hjson
    rfl
  | truth b =>
    cases hjson
    rfl
  | text s =>
    cases hjson
    rfl

theorem CoupletId.loads_toJson (id : CoupletId) : id.toJson.Loads CoupletId.ofJson? id := by
  intro json hjson
  cases id with
  | number i =>
    rw [toJson] at hjson
    cases hjson
    rw [ofJson?, if_pos (inRange_toInt i), Int64.ofInt_toInt]
  | text s =>
    cases hjson
    rfl

theorem loads_recordId {o : Option Value} (h : ∀ v ∈ o, v.IsStorable) :
    (ofOption Value.toJson o).Loads (toOption Value.ofJson?) o :=
  loads_ofOption rfl fun v hv => Value.loads_toJson (h v hv)

/-! ## Couplets -/

theorem CoupletKind.loads_toJson (k : CoupletKind) : k.toJson.Loads CoupletKind.ofJson? k := by
  intro json hjson
  cases hjson
  cases k <;> decide

theorem Couplet.loads_toJson (c : Couplet) : c.toJson.Loads Couplet.ofJson? c := by
  intro json hjson
  obtain ⟨ms, hsource, hoffers⟩ := hjson.exists_source
    ["id", "kind", "name", "comment"] rfl (by decide)
  have hid := hoffers.required "id" (by simp) c.id.loads_toJson 0
  have hkind := hoffers.required "kind" (by simp) c.kind.loads_toJson 1
  have hname := hoffers.required "name" (by simp) (loads_text c.name) 2
  have hcomment := hoffers.required "comment" (by simp) (loads_text c.comment) 3
  rw [Couplet.ofJson?, hsource]
  simp only [Option.bind_eq_bind, Option.bind_some, hid, hkind, hname, hcomment]
  rfl

/-! ## Records -/

theorem Record.loads_toJson {r : Record} (h : r.IsStorable) : r.toJson.Loads Record.ofJson? r := by
  intro json hjson
  obtain ⟨ms, ms', rfl, hmembers, hperm⟩ := hjson.exists_members
  rw [List.forall₂_map_left_iff] at hmembers
  -- the members that come in another order are the cells in another order
  have hread : List.Forall₂ (fun cell member =>
      (Value.ofJson? member.2).map (fun v => (member.1, v)) = some cell) r.toList ms := by
    refine forall₂_imp_of_mem (fun cell hcell member hmember => ?_) hmembers
    rw [Value.loads_toJson (h.values cell hcell) member.2 hmember.2, Option.map_some, ← hmember.1]
  obtain ⟨cells, hcells, hsame⟩ := List.perm_comp_forall₂ hperm.symm hread.flip
  rw [Record.ofJson?, mapM_eq_some_iff.mpr hcells, Option.map_some,
    h.names.ofList_of_perm hsame]

/-! ## Classifications -/

theorem Step.loads_toJson {s : Step} (h : s.IsStorable) : s.toJson.Loads Step.ofJson? s := by
  intro json hjson
  obtain ⟨ms, hsource, hoffers⟩ := hjson.exists_source
    ["index", "couplet", "record_id"] rfl (by decide)
  have hindex := hoffers.required "index" (by simp) (loads_count h.index) 0
  have hcouplet := hoffers.required "couplet" (by simp) s.couplet.loads_toJson 1
  have hrecordId := hoffers.option "record_id" (by simp) (loads_recordId h.recordId) 2
  rw [Step.ofJson?, hsource]
  simp only [Option.bind_eq_bind, Option.bind_some, hindex, hcouplet, hrecordId]
  rfl

theorem Classification.loads_toJson {c : Classification} (h : c.IsStorable) :
    c.toJson.Loads Classification.ofJson? c := by
  intro json hjson
  obtain ⟨ms, hsource, hoffers⟩ := hjson.exists_source
    ["result", "steps", "record_id"] rfl (by decide)
  have hresult := hoffers.required "result" (by simp) c.result.loads_toJson 0
  have hsteps := hoffers.required "steps" (by simp)
    (loads_array fun s hs => Step.loads_toJson (h.steps s hs)) 1
  have hrecordId := hoffers.option "record_id" (by simp) (loads_recordId h.recordId) 2
  rw [Classification.ofJson?, hsource]
  simp only [Option.bind_eq_bind, Option.bind_some, hresult, hsteps, hrecordId]
  rfl

/-! ## Settings -/

theorem Settings.loads_toJson {s : Settings} (h : s.IsStorable) :
    s.toJson.Loads Settings.ofJson? s := by
  intro json hjson
  obtain ⟨ms, hsource, hoffers⟩ := hjson.exists_source
    ["description", "id_field", "check_cycles", "max_steps"] rfl (by decide)
  have hdescription := hoffers.optional "description" (by simp)
    (loads_text s.description) "Key" 0
  have hidField := hoffers.optional "id_field" (by simp)
    (loads_ofOption (o := s.idField) rfl fun name _ => loads_text name) none 1
  have hcheckCycles := hoffers.optional "check_cycles" (by simp)
    (loads_bool s.checkCycles) true 2
  have hmaxSteps := hoffers.optional "max_steps" (by simp)
    (loads_ofOption (o := s.maxSteps) rfl fun n hn => loads_count (h n hn)) none 3
  rw [Settings.ofJson?, hsource]
  simp only [Option.bind_eq_bind, Option.bind_some, hdescription, hidField, hcheckCycles, hmaxSteps]
  rfl

end ClassificationKey
