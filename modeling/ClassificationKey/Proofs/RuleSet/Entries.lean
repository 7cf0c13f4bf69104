import ClassificationKey.Proofs.Row
import ClassificationKey.RuleSet.Basic
import Mathlib.Data.List.Induction
import Mathlib.Data.List.Nodup

/-!
# Rules under ids

Entries, rules under ids, make a rule set when the ids are distinct and not zero
(`exists_ofList_iff`). The set collects them (`Collects`): it finds the rule of an entry under its
id, and no other rule. So it does not depend on the order of the entries (`Collects.perm`,
`Collects.unique`).
-/

namespace ClassificationKey

namespace RuleSet

variable {rs rs' : RuleSet} {id : RuleId} {rule : Rule} {entries : List (RuleId × Rule)}

@[ext] theorem ext (h : ∀ id, rs.get? id = rs'.get? id) : rs = rs' := by
  cases rs
  cases rs'
  congr
  exact Std.ExtTreeMap.ext_getElem? h

@[simp] theorem size_empty : empty.size = 0 := Std.ExtTreeMap.size_empty

theorem mem_toList_iff : (id, rule) ∈ rs.toList ↔ rs.get? id = some rule :=
  Std.ExtTreeMap.mem_toList_iff_getElem?_eq_some

theorem toList_ascending (rs : RuleSet) : rs.toList.Pairwise fun a b => a.1 < b.1 :=
  Std.ExtTreeMap.ordered_keys_toList.imp Std.compare_eq_lt.mp

/-! ## One entry -/

theorem contains_eq_false_iff : rs.contains id = false ↔ rs.get? id = none := by
  rw [contains, Option.isSome_eq_false_iff, Option.isNone_iff_eq_none]

theorem size_insert (h : rs.get? id = none) (rule : Rule) :
    (RuleSet.mk (rs.rules.insert id rule)).size = rs.size + 1 := by
  have hmem : rs.rules.contains id = false := by
    rwa [Std.ExtTreeMap.contains_eq_isSome_getElem?, ← get?, ← contains, contains_eq_false_iff]
  rw [size, size, Std.ExtTreeMap.size_insert, hmem]
  rfl

theorem add_eq_ok_iff :
    rs.add id rule = .ok rs' ↔
      id ≠ 0 ∧ rs.get? id = none ∧ rs' = ⟨rs.rules.insert id rule⟩ := by
  unfold add
  split
  · next hzero => simp [hzero]
  · next hzero =>
    split
    · next hused => simp [← contains_eq_false_iff, hused]
    · next hfree =>
      rw [Bool.not_eq_true, contains_eq_false_iff] at hfree
      simp [hzero, hfree, eq_comm]

theorem add_eq_error_iff {e : DefinitionError} :
    rs.add id rule = .error e ↔
      (id = 0 ∧ e = .invalidRuleId (.integer 0)) ∨
        (id ≠ 0 ∧ (∃ rule', rs.get? id = some rule') ∧ e = .duplicateRule id) := by
  unfold add
  split
  · next hzero => simp [hzero, eq_comm]
  · next hzero =>
    rw [← Option.isSome_iff_exists, ← contains]
    split
    · next hused => simp [hzero, hused, eq_comm]
    · next hfree => simp [hzero, hfree]

/-! ## Collections -/

theorem nodup_ids_concat {entry : RuleId × Rule} :
    ((entries ++ [entry]).map Prod.fst).Nodup ↔
      entry.1 ∉ entries.map Prod.fst ∧ (entries.map Prod.fst).Nodup := by
  rw [List.map_append, List.map_singleton, List.nodup_append_comm, List.singleton_append,
    List.nodup_cons]

/-- The set consists of the entries, whose ids are distinct and not zero. -/
structure Collects (rs : RuleSet) (entries : List (RuleId × Rule)) : Prop where
  nonzero : ∀ entry ∈ entries, entry.1 ≠ 0
  distinct : (entries.map Prod.fst).Nodup
  get?_iff : ∀ id rule, rs.get? id = some rule ↔ (id, rule) ∈ entries
  size : rs.size = entries.length

theorem collects_empty : empty.Collects [] where
  nonzero := by simp
  distinct := List.nodup_nil
  get?_iff := by simp
  size := size_empty

namespace Collects

theorem exists_get?_iff (h : rs.Collects entries) :
    (∃ rule, rs.get? id = some rule) ↔ id ∈ entries.map Prod.fst := by
  simp [h.get?_iff]

theorem get?_eq_none_iff (h : rs.Collects entries) :
    rs.get? id = none ↔ id ∉ entries.map Prod.fst := by
  rw [← h.exists_get?_iff, Option.eq_none_iff_forall_not_mem]
  simp [Option.mem_def]

theorem insert (h : rs.Collects entries) (hzero : id ≠ 0) (hfree : rs.get? id = none)
    (rule : Rule) : (RuleSet.mk (rs.rules.insert id rule)).Collects (entries ++ [(id, rule)]) where
  nonzero := by
    rintro entry hentry
    rcases List.mem_append.mp hentry with hentry | hentry
    · exact h.nonzero entry hentry
    · rwa [List.mem_singleton.mp hentry]
  distinct := nodup_ids_concat.mpr ⟨h.get?_eq_none_iff.mp hfree, h.distinct⟩
  get?_iff := by
    intro key rule'
    rw [get?_insert, List.mem_append, List.mem_singleton, Prod.mk.injEq]
    split
    · next hkey =>
      subst hkey
      simp [← h.get?_iff, hfree, eq_comm]
    · next hkey => simp [h.get?_iff, Ne.symm hkey]
  size := by rw [size_insert hfree, h.size, List.length_append, List.length_singleton]

theorem unique (h : rs.Collects entries) (h' : rs'.Collects entries) : rs = rs' := by
  ext id rule
  rw [h.get?_iff, h'.get?_iff]

theorem perm {entries' : List (RuleId × Rule)} (h : rs.Collects entries)
    (hperm : entries.Perm entries') : rs.Collects entries' where
  nonzero := fun entry hentry => h.nonzero entry (hperm.mem_iff.mpr hentry)
  distinct := (hperm.map Prod.fst).nodup h.distinct
  get?_iff := fun id rule => by rw [h.get?_iff, hperm.mem_iff]
  size := by rw [h.size, hperm.length_eq]

/-- An entry is added to the set when its id is not zero and none of those before. -/
theorem exists_add_iff (h : rs.Collects entries) :
    (∃ rs', rs.add id rule = .ok rs') ↔ id ≠ 0 ∧ id ∉ entries.map Prod.fst := by
  simp [add_eq_ok_iff, h.get?_eq_none_iff]

theorem add (h : rs.Collects entries) (hadd : rs.add id rule = .ok rs') :
    rs'.Collects (entries ++ [(id, rule)]) := by
  obtain ⟨hzero, hfree, rfl⟩ := add_eq_ok_iff.mp hadd
  exact h.insert hzero hfree rule

end Collects

/-! ## Lists of entries -/

theorem ofList_concat (entries : List (RuleId × Rule)) (entry : RuleId × Rule) :
    ofList (entries ++ [entry]) = ofList entries >>= fun rs => rs.add entry.1 entry.2 := by
  rw [ofList, List.foldlM_append]
  exact congrArg _ (funext fun rs => by simp)

theorem collects_of_ofList (h : ofList entries = .ok rs) : rs.Collects entries := by
  induction entries using List.reverseRecOn generalizing rs with
  | nil =>
    cases h
    exact collects_empty
  | append_singleton entries entry ih =>
    rw [ofList_concat, bind_eq_ok_iff] at h
    obtain ⟨rs₀, hbefore, hadd⟩ := h
    exact (ih hbefore).add hadd

theorem exists_ofList_iff :
    (∃ rs, ofList entries = .ok rs) ↔
      (∀ entry ∈ entries, entry.1 ≠ 0) ∧ (entries.map Prod.fst).Nodup := by
  constructor
  · rintro ⟨rs, hrs⟩
    have hcollects := collects_of_ofList hrs
    exact ⟨hcollects.nonzero, hcollects.distinct⟩
  · rintro ⟨hnonzero, hdistinct⟩
    induction entries using List.reverseRecOn with
    | nil => exact ⟨empty, rfl⟩
    | append_singleton entries entry ih =>
      rw [List.forall_mem_append, List.forall_mem_singleton] at hnonzero
      rw [nodup_ids_concat] at hdistinct
      obtain ⟨rs₀, hbefore⟩ := ih hnonzero.1 hdistinct.2
      obtain ⟨rs, hadd⟩ : ∃ rs, rs₀.add entry.1 entry.2 = .ok rs :=
        (collects_of_ofList hbefore).exists_add_iff.mpr ⟨hnonzero.2, hdistinct.1⟩
      refine ⟨rs, ?_⟩
      rw [ofList_concat, bind_eq_ok_iff]
      exact ⟨rs₀, hbefore, hadd⟩

theorem ofList_eq_ok_iff : ofList entries = .ok rs ↔ rs.Collects entries := by
  refine ⟨collects_of_ofList, fun h => ?_⟩
  obtain ⟨rs', hrs'⟩ := exists_ofList_iff.mpr ⟨h.nonzero, h.distinct⟩
  rw [h.unique (collects_of_ofList hrs')]
  exact hrs'

end RuleSet

end ClassificationKey
