import ClassificationKey.Proofs.Distinct
import ClassificationKey.Proofs.Text.Upper
import ClassificationKey.Record

/-!
# Records as maps

A record holds under each normalised name the value last written there (`Record.get?_ofList`), in
whatever order the names were written. Normalising is idempotent (`Record.normalise_normalise`), and
every way of writing keeps the stored names normalised (`Record.isNormal_ofWrites`), so a record is
determined by what it answers (`Record.IsNormal.ext`) and is made again from its own cells in any
order (`Record.IsNormal.ofList_of_perm`).
-/

namespace ClassificationKey

open Text

/-! ## Sameness -/

theorem Binary64.eq_self_iff (x : Binary64) : x.eq x = true ↔ x ≠ .nan := by
  cases x with
  | nan => simp [eq, compareBy, place?]
  | signed negative rank => simp [eq, compareBy, place?]

theorem Value.same_self_iff (v : Value) : v.same v = true ↔ v ≠ .float .nan := by
  cases v with
  | integer i => simp [same]
  | float x => simp [same, Binary64.eq_self_iff]
  | truth b => simp [same]
  | text s => simp [same]

namespace Record

variable {r t : Record} {pairs : List (String × Value)}

theorem mem_toList_iff {name : String} {v : Value} :
    (name, v) ∈ r.toList ↔ r.cells[name]? = some v :=
  Std.ExtTreeMap.mem_toList_iff_getElem?_eq_some

theorem toList_ascending (r : Record) : r.toList.Pairwise fun a b => a.1 < b.1 := by
  refine List.Pairwise.imp ?_ (Std.ExtTreeMap.ordered_keys_toList (t := r.cells))
  intro a b h
  exact compareOfLessAndEq_eq_lt.mp h

theorem nodup_names (r : Record) : (r.toList.map Prod.fst).Nodup := by
  refine List.pairwise_map.mpr (r.toList_ascending.imp ?_)
  intro a b h heq
  exact String.lt_irrefl b.1 (heq ▸ h)

theorem length_toList (r : Record) : r.toList.length = r.size := Std.ExtTreeMap.length_toList

theorem same_self_iff (r : Record) :
    r.same r = true ↔ ∀ cell ∈ r.toList, cell.2 ≠ .float .nan := by
  rw [same, beq_self_eq_true, Bool.true_and, List.all_eq_true]
  refine forall₂_congr fun cell hcell => ?_
  rw [mem_toList_iff.mp hcell]
  exact cell.2.same_self_iff

/-! ## Normalised names -/

@[simp] theorem normalise_normalise (name : String) :
    normalise (normalise name) = normalise name := by
  have htrimmed : IsTrimmed (trim name).toList := by
    rw [toList_trim]
    exact isTrimmed_trimChars name.toList
  rw [normalise, normalise, htrimmed.upper.trim_eq, upper_upper]

/-- Every cell stands under a normalised name. -/
def IsNormal (r : Record) : Prop := ∀ cell ∈ r.toList, normalise cell.1 = cell.1

theorem isNormal_empty : empty.IsNormal := by
  intro cell hcell
  have hnone := mem_toList_iff.mp hcell
  simp [empty] at hnone

theorem IsNormal.set (h : r.IsNormal) (name : String) (v : Value) : (r.set name v).IsNormal := by
  rintro ⟨key, w⟩ hcell
  rw [mem_toList_iff, Record.set, Std.ExtTreeMap.getElem?_insert] at hcell
  split at hcell
  · next hkey =>
    rw [← Std.compare_eq_iff_eq.mp hkey]
    exact normalise_normalise name
  · exact h _ (mem_toList_iff.mpr hcell)

theorem IsNormal.mem_toList_iff_get? (h : r.IsNormal) {name : String} {v : Value} :
    (name, v) ∈ r.toList ↔ normalise name = name ∧ r.get? name = some v := by
  rw [get?, ← mem_toList_iff]
  constructor
  · intro hcell
    have hname := h _ hcell
    exact ⟨hname, by rwa [hname]⟩
  · rintro ⟨hname, hcell⟩
    rwa [hname] at hcell

/-- A record with normalised names is determined by what it answers. -/
theorem IsNormal.ext (hr : r.IsNormal) (ht : t.IsNormal) (h : ∀ name, r.get? name = t.get? name) :
    r = t := by
  refine Record.ext fun name => Option.ext fun v => ?_
  rw [← mem_toList_iff, ← mem_toList_iff, hr.mem_toList_iff_get?, ht.mem_toList_iff_get?, h name]

/-! ## Writing in turn -/

theorem ofList_concat (pairs : List (String × Value)) (pair : String × Value) :
    ofList (pairs ++ [pair]) = (ofList pairs).set pair.1 pair.2 := by
  rw [ofList, ofList, List.foldl_append, List.foldl_cons, List.foldl_nil]

theorem isNormal_ofList (pairs : List (String × Value)) : (ofList pairs).IsNormal := by
  induction pairs using List.reverseRecOn with
  | nil => exact isNormal_empty
  | append_singleton pairs pair ih =>
    rw [ofList_concat]
    exact ih.set pair.1 pair.2

/-- The value last written under a name, whatever its spelling. -/
def lastValue? (pairs : List (String × Value)) (name : String) : Option Value :=
  (pairs.filter fun pair => normalise pair.1 == normalise name).getLast?.map (·.2)

theorem lastValue?_concat (pairs : List (String × Value)) (pair : String × Value) (name : String) :
    lastValue? (pairs ++ [pair]) name =
      if normalise pair.1 = normalise name then some pair.2 else lastValue? pairs name := by
  rw [lastValue?, List.filter_append]
  split
  · next h => simp [h]
  · next h => simp [h, lastValue?]

theorem get?_ofList (pairs : List (String × Value)) (name : String) :
    (ofList pairs).get? name = lastValue? pairs name := by
  induction pairs using List.reverseRecOn with
  | nil => exact get?_empty name
  | append_singleton pairs pair ih => rw [ofList_concat, get?_set, lastValue?_concat, ih]

theorem exists_lastValue?_iff {name : String} :
    (∃ v, lastValue? pairs name = some v) ↔ normalise name ∈ pairs.map (normalise ·.1) := by
  induction pairs using List.reverseRecOn with
  | nil => simp [lastValue?]
  | append_singleton pairs pair ih =>
    rw [lastValue?_concat, List.map_append, List.mem_append, ← ih]
    split
    · next h => simp [h]
    · next h => simp [Ne.symm h]

theorem exists_of_mem_ofList {cell : String × Value} (h : cell ∈ (ofList pairs).toList) :
    ∃ pair ∈ pairs, pair.2 = cell.2 := by
  have hlast := ((isNormal_ofList pairs).mem_toList_iff_get?.mp h).2
  rw [get?_ofList, lastValue?, Option.map_eq_some_iff] at hlast
  obtain ⟨pair, hpair, hvalue⟩ := hlast
  exact ⟨pair, (List.mem_filter.mp (List.mem_of_getLast? hpair)).1, hvalue⟩

/-- Where no name is written twice, what is written stays. -/
theorem lastValue?_eq_some_iff (h : (pairs.map (normalise ·.1)).Nodup) {name : String} {v : Value} :
    lastValue? pairs name = some v ↔
      ∃ pair ∈ pairs, normalise pair.1 = normalise name ∧ pair.2 = v := by
  induction pairs using List.reverseRecOn with
  | nil => simp [lastValue?]
  | append_singleton pairs pair ih =>
    rw [List.map_append, List.map_singleton, List.nodup_append_comm, List.singleton_append,
      List.nodup_cons] at h
    rw [lastValue?_concat]
    simp only [List.mem_append, List.mem_singleton, or_and_right, exists_or, exists_eq_left]
    split
    · next hname =>
      have hnone : ¬∃ other ∈ pairs, normalise other.1 = normalise name ∧ other.2 = v := by
        rintro ⟨other, hother, heq, -⟩
        exact h.1 (List.mem_map.mpr ⟨other, hother, heq.trans hname.symm⟩)
      simp [hnone, hname]
    · next hname => simp [ih h.2, hname]

/-- The size is the number of distinct names. -/
theorem size_ofList (pairs : List (String × Value)) :
    (ofList pairs).size = (pairs.map (normalise ·.1)).eraseDups.length := by
  rw [← length_toList, ← List.length_map (f := Prod.fst)]
  refine List.Perm.length_eq ?_
  rw [List.perm_ext_iff_of_nodup (nodup_names _) (nodup_eraseDups _)]
  intro name
  have hcell : name ∈ (ofList pairs).toList.map Prod.fst ↔
      normalise name = name ∧ ∃ v, lastValue? pairs name = some v := by
    simp only [List.mem_map, Prod.exists, exists_and_right, exists_eq_right,
      (isNormal_ofList pairs).mem_toList_iff_get?, get?_ofList, exists_and_left]
  rw [hcell, exists_lastValue?_iff, List.mem_eraseDups]
  constructor
  · rintro ⟨hname, hmem⟩
    rwa [hname] at hmem
  · intro hmem
    obtain ⟨pair, -, rfl⟩ := List.mem_map.mp hmem
    rw [normalise_normalise]
    exact ⟨rfl, hmem⟩

/-- Cells written in any order make their record again. -/
theorem IsNormal.ofList_of_perm (h : r.IsNormal) (hperm : pairs.Perm r.toList) :
    ofList pairs = r := by
  have hnames : pairs.map (normalise ·.1) = pairs.map Prod.fst :=
    List.map_congr_left fun pair hpair => h pair (hperm.mem_iff.mp hpair)
  have hnodup : (pairs.map (normalise ·.1)).Nodup := by
    rw [hnames, (hperm.map Prod.fst).nodup_iff]
    exact r.nodup_names
  refine (isNormal_ofList pairs).ext h fun name => Option.ext fun v => ?_
  rw [get?_ofList, lastValue?_eq_some_iff hnodup, get?, ← mem_toList_iff]
  constructor
  · rintro ⟨pair, hpair, hname, rfl⟩
    have hcell := hperm.mem_iff.mp hpair
    rwa [← hname, h pair hcell]
  · intro hcell
    exact ⟨_, hperm.mem_iff.mpr hcell, normalise_normalise name, rfl⟩

/-! ## Ways of writing -/

/-- A way of writing to a record. -/
inductive Write where
  /-- One cell is set, in place or in a copy. -/
  | set (name : String) (v : Value)
  /-- The record is replaced by the one that the pairs make. -/
  | collect (pairs : List (String × Value))

def Write.apply (r : Record) : Write → Record
  | .set name v => r.set name v
  | .collect pairs => ofList pairs

/-- The record that is written from the empty one. -/
def ofWrites (ws : List Write) : Record := ws.foldl Write.apply empty

/-- The pairs that have been written since the record was last replaced. -/
def Write.append (pairs : List (String × Value)) : Write → List (String × Value)
  | .set name v => pairs ++ [(name, v)]
  | .collect pairs => pairs

def written (ws : List Write) : List (String × Value) := ws.foldl Write.append []

theorem Write.apply_ofList (pairs : List (String × Value)) (w : Write) :
    w.apply (ofList pairs) = ofList (w.append pairs) := by
  cases w with
  | set name v => exact (ofList_concat pairs (name, v)).symm
  | collect pairs' => rfl

theorem ofWrites_eq_ofList (ws : List Write) : ofWrites ws = ofList (written ws) := by
  induction ws using List.reverseRecOn with
  | nil => rfl
  | append_singleton ws w ih =>
    rw [ofWrites, written, List.foldl_append, List.foldl_append, ← ofWrites, ← written, ih]
    exact w.apply_ofList (written ws)

theorem isNormal_ofWrites (ws : List Write) : (ofWrites ws).IsNormal := by
  rw [ofWrites_eq_ofList]
  exact isNormal_ofList _

/-- No answer tells the records apart. -/
structure Alike (r t : Record) : Prop where
  get? : ∀ name, r.get? name = t.get? name
  field? : ∀ name, r.field? name = t.field? name
  contains : ∀ name, r.contains name = t.contains name
  size : r.size = t.size
  display : r.display = t.display

/-- The record shows the values last written, each under its name, the names in ascending order of
their code points. -/
structure Shows (r : Record) (pairs : List (String × Value)) : Prop where
  get? : ∀ name, r.get? name = lastValue? pairs name
  size : r.size = (pairs.map (normalise ·.1)).eraseDups.length
  display : ∃ cells : List (String × Value),
    cells.Pairwise (fun a b => a.1 < b.1) ∧
      (∀ name v, (name, v) ∈ cells ↔ normalise name = name ∧ lastValue? pairs name = some v) ∧
      r.display = "\x7b" ++ ", ".intercalate (cells.map fun cell => cell.1 ++ ": " ++ cell.2.display)
        ++ "\x7d"

theorem shows_ofWrites (ws : List Write) : (ofWrites ws).Shows (written ws) where
  get? name := by rw [ofWrites_eq_ofList, get?_ofList]
  size := by rw [ofWrites_eq_ofList, size_ofList]
  display := by
    refine ⟨(ofWrites ws).toList, toList_ascending _, fun name v => ?_, rfl⟩
    rw [(isNormal_ofWrites ws).mem_toList_iff_get?, ofWrites_eq_ofList, get?_ofList]

theorem Shows.same_self (h : r.Shows pairs) (hr : r.IsNormal)
    (hnan : ∀ name, lastValue? pairs name ≠ some (.float .nan)) : r.same r = true := by
  rw [same_self_iff]
  rintro ⟨name, v⟩ hcell rfl
  have hget := (hr.mem_toList_iff_get?.mp hcell).2
  rw [h.get?] at hget
  exact hnan name hget

/-- The last write under each name decides all that a record answers; the order of the writes, the
spellings of the names and what was overwritten do not. Doubles compare as numbers, so records with
`nan` are not the same as themselves. -/
theorem ofWrites_spec (ws us : List Write)
    (h : ∀ name, lastValue? (written ws) name = lastValue? (written us) name) :
    (ofWrites ws).Shows (written ws) ∧ (ofWrites ws).Alike (ofWrites us) ∧
      ((∀ name, lastValue? (written ws) name ≠ some (.float .nan)) →
        (ofWrites ws).same (ofWrites us) = true) ∧
      ∀ pairs : List (String × Value), pairs.Perm (ofWrites ws).toList →
        ofList pairs = ofWrites ws := by
  have hshows := shows_ofWrites ws
  have hnormal := isNormal_ofWrites ws
  have heq : ofWrites us = ofWrites ws := by
    refine (isNormal_ofWrites us).ext hnormal fun name => ?_
    rw [(shows_ofWrites us).get?, hshows.get?, h]
  rw [heq]
  refine ⟨hshows, ⟨fun _ => rfl, fun _ => rfl, fun _ => rfl, rfl, rfl⟩, ?_, ?_⟩
  · exact hshows.same_self hnormal
  · intro pairs hperm
    exact hnormal.ofList_of_perm hperm

/-- Sets a size twice, under two spellings of its name. -/
def sizeTwice : List Write :=
  [.set "größe" (.integer 3), .set " form" (.text "tree"), .set "GRÖSSE " (.float (.ofNat 5))]

/-- Collects an old form and the size, then sets the form. -/
def formLast : List Write :=
  [.set "dead" (.truth true), .collect [("Form", .text "?"), ("Größe", .float (.ofNat 5))],
    .set "FORM" (.text "tree")]

theorem ofWrites_sizeTwice :
    (∀ name, lastValue? (written sizeTwice) name = lastValue? (written formLast) name) ∧
      (∀ name, lastValue? (written sizeTwice) name ≠ some (.float .nan)) ∧
      (ofWrites sizeTwice).Alike (ofWrites formLast) ∧
      (ofWrites sizeTwice).same (ofWrites formLast) = true ∧
      ofList (ofWrites sizeTwice).toList.reverse = ofWrites sizeTwice := by
  have hsize : normalise "größe" = "GRÖSSE" := by decide
  have hsize' : normalise "GRÖSSE " = "GRÖSSE" := by decide
  have hsize'' : normalise "Größe" = "GRÖSSE" := by decide
  have hform : normalise " form" = "FORM" := by decide
  have hform' : normalise "Form" = "FORM" := by decide
  have hform'' : normalise "FORM" = "FORM" := by decide
  have hvalue : ∀ name, lastValue? (written sizeTwice) name =
      if normalise name = "GRÖSSE" then some (.float (.ofNat 5))
      else if normalise name = "FORM" then some (.text "tree") else none := by
    intro name
    simp only [lastValue?, sizeTwice, written, Write.append, List.foldl_cons, List.foldl_nil,
      List.nil_append, List.cons_append, List.filter_cons, List.filter_nil, hsize, hsize', hform]
    by_cases hn : normalise name = "GRÖSSE"
    · simp [hn]
    · by_cases hn' : normalise name = "FORM"
      · simp [hn']
      · simp [hn, hn', Ne.symm hn, Ne.symm hn']
  have hlast : ∀ name, lastValue? (written sizeTwice) name = lastValue? (written formLast) name := by
    intro name
    rw [hvalue]
    simp only [lastValue?, formLast, written, Write.append, List.foldl_cons, List.foldl_nil,
      List.cons_append, List.nil_append, List.filter_cons, List.filter_nil, hsize'', hform', hform'']
    by_cases hn : normalise name = "GRÖSSE"
    · simp [hn]
    · by_cases hn' : normalise name = "FORM"
      · simp [hn']
      · simp [hn, hn', Ne.symm hn, Ne.symm hn']
  have hnan : ∀ name, lastValue? (written sizeTwice) name ≠ some (.float .nan) := by
    intro name
    rw [hvalue]
    split
    · decide
    · split <;> simp
  obtain ⟨-, halike, hsame, hcollect⟩ := ofWrites_spec sizeTwice formLast hlast
  exact ⟨hlast, hnan, halike, hsame hnan, hcollect _ (List.reverse_perm _)⟩

end Record

end ClassificationKey
