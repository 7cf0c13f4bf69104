import ClassificationKey.Proofs.Json.Form
import ClassificationKey.Proofs.Json.Reader

/-!
# Loading and saving

What a text loads as is storable, since the numbers of a text are finite and counts fit 64 bits. So
saving it and loading it again changes nothing (`Json.roundTrips_of_storable`), for every kind of
data that has a JSON form (`Json.roundTrips`).
-/

namespace ClassificationKey

namespace Json

variable {α : Type}

/-- Reads a text as a document, and the document as data. -/
def load? (read : Json → Option α) (text : String) : Option α := (read? text).bind read

/-- The text is the document, its members in any order. -/
def IsTextOf (text : String) (json : Json) : Prop :=
  ∃ json', read? text = some json' ∧ json.Reordered json'

/-- Storable data is read from its form, and data that was loaded from a text is loaded again from
every text that it is saved as. -/
structure RoundTrips (write : α → Json) (read : Json → Option α) (storable : α → Prop) : Prop where
  loads : ∀ a, storable a → (write a).Loads read a
  reload : ∀ text a, load? read text = some a →
    ∀ saved, IsTextOf saved (write a) → load? read saved = some a

theorem roundTrips_of_storable {write : α → Json} {read : Json → Option α} {storable : α → Prop}
    (hloads : ∀ a, storable a → (write a).Loads read a)
    (hstorable : ∀ json a, json.IsFinite → read json = some a → storable a) :
    RoundTrips write read storable where
  loads := hloads
  reload := by
    intro text a hload saved hsaved
    obtain ⟨json, hread, ha⟩ := Option.bind_eq_some_iff.mp hload
    obtain ⟨json', hread', hreordered⟩ := hsaved
    rw [load?, hread', Option.bind_some]
    exact hloads a (hstorable json a (isFinite_of_read? hread) ha) json' hreordered

/-! ## Fields -/

variable {json : Json} {s : Source} {fields : List String} {name : String} {place : Nat}
  {read : Json → Option α}

theorem IsFinite.get? (hjson : json.IsFinite) (hsource : json.source? fields = some s)
    {field : Json} (h : s.get? name place = some field) : field.IsFinite := by
  cases hjson with
  | object hmembers =>
    rw [source?, Option.ite_none_right_eq_some, Option.some.injEq] at hsource
    rw [← hsource.2, Source.get?] at h
    obtain ⟨member, hmember, rfl⟩ := List.mem_map.mp (List.mem_of_head? h)
    exact hmembers member (List.mem_filter.mp hmember).1
  | array hitems =>
    rw [source?, Option.ite_none_right_eq_some, Option.some.injEq] at hsource
    rw [← hsource.2, Source.get?] at h
    exact hitems field (List.mem_of_getElem? h)
  | _ => cases hsource

theorem Source.required_eq_some_iff {a : α} :
    s.required read name place = some a ↔
      ∃ field, s.get? name place = some field ∧ read field = some a := Option.bind_eq_some_iff

theorem Source.optional_cases {default a : α} (h : s.optional read default name place = some a) :
    a = default ∨ ∃ field, s.get? name place = some field ∧ read field = some a := by
  rw [optional] at h
  split at h
  · cases h
    exact .inl rfl
  · next field hget => exact .inr ⟨field, hget, h⟩

theorem Source.option_cases {read : Json → Option (Option α)} {o : Option α}
    (h : s.option read name place = some o) :
    o = none ∨ ∃ field, s.get? name place = some field ∧ read field = some o := by
  cases s with
  | members ms => exact Source.optional_cases h
  | items js => exact .inr (Source.required_eq_some_iff.mp h)

theorem read_of_toOption {o : Option α} {a : α} (h : toOption read json = some o) (ha : a ∈ o) :
    read json = some a := by
  cases ha
  cases json with
  | null => cases h
  | _ =>
    obtain ⟨b, hb, heq⟩ := Option.map_eq_some_iff.mp h
    cases heq
    exact hb

theorem lt_of_toCount? {n : Nat} (h : toCount? json = some n) : n < UInt64.size := by
  cases json with
  | integer i =>
    rw [toCount?, Option.ite_none_right_eq_some, Option.some.injEq, Bool.and_eq_true,
      decide_eq_true_eq, decide_eq_true_eq] at h
    obtain ⟨⟨hnonneg, hlt⟩, rfl⟩ := h
    omega
  | _ => cases h

end Json

open Json

/-! ## What is loaded is storable -/

theorem Value.isStorable_of_ofJson? {json : Json} {v : Value} (hjson : json.IsFinite)
    (h : Value.ofJson? json = some v) : v.IsStorable := by
  cases hjson with
  | integer hi =>
    rw [ofJson?] at h
    split at h
    · cases h
      exact trivial
    · cases h
      exact Binary64.isFinite_nearest_word _ hi
  | float hx =>
    cases h
    exact hx
  | bool b =>
    cases h
    exact trivial
  | text s =>
    cases h
    exact trivial
  | _ => cases h

theorem Record.isStorable_of_ofJson? {json : Json} {r : Record} (hjson : json.IsFinite)
    (h : Record.ofJson? json = some r) : r.IsStorable := by
  cases hjson with
  | object hmembers =>
    obtain ⟨pairs, hpairs, rfl⟩ := Option.map_eq_some_iff.mp h
    refine ⟨isNormal_ofList pairs, fun cell hcell => ?_⟩
    obtain ⟨pair, hpair, hvalue⟩ := exists_of_mem_ofList hcell
    obtain ⟨member, hmember, hread⟩ := forall₂_exists_left (mapM_eq_some_iff.mp hpairs) pair hpair
    obtain ⟨v, hv, rfl⟩ := Option.map_eq_some_iff.mp hread
    rw [← hvalue]
    exact Value.isStorable_of_ofJson? (hmembers member hmember) hv
  | _ => cases h

theorem Json.isStorable_recordId {json : Json} (hjson : json.IsFinite) {s : Source}
    {fields : List String} (hsource : json.source? fields = some s) {name : String} {place : Nat}
    {o : Option Value} (h : s.option (toOption Value.ofJson?) name place = some o) :
    ∀ v ∈ o, v.IsStorable := by
  intro v hv
  rcases Source.option_cases h with rfl | ⟨field, hget, hread⟩
  · cases hv
  · exact Value.isStorable_of_ofJson? (hjson.get? hsource hget) (read_of_toOption hread hv)

theorem Step.isStorable_of_ofJson? {json : Json} {s : Step} (hjson : json.IsFinite)
    (h : Step.ofJson? json = some s) : s.IsStorable := by
  simp only [Step.ofJson?, Option.bind_eq_bind, Option.bind_eq_some_iff] at h
  obtain ⟨source, hsource, index, hindex, couplet, -, recordId, hrecordId, hs⟩ := h
  cases hs
  obtain ⟨field, -, hcount⟩ := Source.required_eq_some_iff.mp hindex
  exact ⟨lt_of_toCount? hcount, isStorable_recordId hjson hsource hrecordId⟩

theorem Classification.isStorable_of_ofJson? {json : Json} {c : Classification}
    (hjson : json.IsFinite) (h : Classification.ofJson? json = some c) : c.IsStorable := by
  simp only [Classification.ofJson?, Option.bind_eq_bind, Option.bind_eq_some_iff] at h
  obtain ⟨source, hsource, result, -, steps, hsteps, recordId, hrecordId, hc⟩ := h
  cases hc
  refine ⟨fun s hs => ?_, isStorable_recordId hjson hsource hrecordId⟩
  obtain ⟨field, hget, hread⟩ := Source.required_eq_some_iff.mp hsteps
  cases hjson.get? hsource hget with
  | array hitems =>
    obtain ⟨item, hitem, hstep⟩ := forall₂_exists_left (mapM_eq_some_iff.mp hread) s hs
    exact Step.isStorable_of_ofJson? (hitems item hitem) hstep
  | _ => cases hread

theorem Settings.isStorable_of_ofJson? {json : Json} {s : Settings}
    (h : Settings.ofJson? json = some s) : s.IsStorable := by
  simp only [Settings.ofJson?, Option.bind_eq_bind, Option.bind_eq_some_iff] at h
  obtain ⟨source, -, description, -, idField, -, checkCycles, -, maxSteps, hmaxSteps, hs⟩ := h
  cases hs
  intro n hn
  rcases Source.optional_cases hmaxSteps with rfl | ⟨field, -, hread⟩
  · cases hn
  · exact lt_of_toCount? (read_of_toOption hread hn)

/-- Every kind of data that has a JSON form is loaded as it was saved. -/
theorem Json.roundTrips :
    RoundTrips Value.toJson Value.ofJson? Value.IsStorable ∧
      RoundTrips CoupletId.toJson CoupletId.ofJson? (fun _ => True) ∧
      RoundTrips CoupletKind.toJson CoupletKind.ofJson? (fun _ => True) ∧
      RoundTrips Couplet.toJson Couplet.ofJson? (fun _ => True) ∧
      RoundTrips Record.toJson Record.ofJson? Record.IsStorable ∧
      RoundTrips Step.toJson Step.ofJson? Step.IsStorable ∧
      RoundTrips Classification.toJson Classification.ofJson? Classification.IsStorable ∧
      RoundTrips Settings.toJson Settings.ofJson? Settings.IsStorable := by
  refine ⟨?_, ?_, ?_, ?_, ?_, ?_, ?_, ?_⟩
  · exact roundTrips_of_storable (fun _ => Value.loads_toJson) fun _ _ => Value.isStorable_of_ofJson?
  · exact roundTrips_of_storable (fun id _ => id.loads_toJson) fun _ _ _ _ => trivial
  · exact roundTrips_of_storable (fun k _ => k.loads_toJson) fun _ _ _ _ => trivial
  · exact roundTrips_of_storable (fun c _ => c.loads_toJson) fun _ _ _ _ => trivial
  · exact roundTrips_of_storable (fun _ => Record.loads_toJson)
      fun _ _ => Record.isStorable_of_ofJson?
  · exact roundTrips_of_storable (fun _ => Step.loads_toJson) fun _ _ => Step.isStorable_of_ofJson?
  · exact roundTrips_of_storable (fun _ => Classification.loads_toJson)
      fun _ _ => Classification.isStorable_of_ofJson?
  · exact roundTrips_of_storable (fun _ => Settings.loads_toJson)
      fun _ _ _ => Settings.isStorable_of_ofJson?

/-- A couplet whose id is a text of digits. -/
def oak : Couplet := ⟨.text "5", .terminal, "Oak", "lobed"⟩

/-- The couplet with its kind first. -/
def oakText : String :=
  "\x7b\"kind\":\"class\",\"id\":\"5\",\"name\":\"Oak\",\"comment\":\"lobed\"\x7d"

theorem Json.roundTrips_oak :
    (Value.float (.ofNat 5)).IsStorable ∧
      (Value.float (.ofNat 5)).toJson.Loads Value.ofJson? (.float (.ofNat 5)) ∧
      IsTextOf "\"5\"" oak.id.toJson ∧ load? CoupletId.ofJson? "\"5\"" = some oak.id ∧
      load? Couplet.ofJson? oakText = some oak ∧
      ∀ saved, IsTextOf saved oak.toJson → load? Couplet.ofJson? saved = some oak := by
  obtain ⟨hvalue, hid, -, hcouplet, -, -, -, -⟩ := Json.roundTrips
  have hfinite : (Value.float (.ofNat 5)).IsStorable :=
    Binary64.isFinite_nearest_word false (by decide)
  have hread : load? toText? "\"5\"" = some "5" := by decide +kernel
  obtain ⟨json, hdocument, hjson⟩ := Option.bind_eq_some_iff.mp hread
  cases json with
  | text s =>
    cases hjson
    have htext : load? CoupletId.ofJson? "\"5\"" = some oak.id := by
      rw [load?, hdocument]
      exact hid.loads oak.id trivial _ (.refl _)
    have hload : load? Couplet.ofJson? oakText = some oak := by decide +kernel
    exact ⟨hfinite, hvalue.loads _ hfinite, ⟨_, hdocument, .refl _⟩, htext, hload,
      hcouplet.reload _ _ hload⟩
  | _ => cases hjson

end ClassificationKey
