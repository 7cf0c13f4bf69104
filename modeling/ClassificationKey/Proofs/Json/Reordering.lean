import ClassificationKey.Json.Form
import ClassificationKey.Proofs.Row

/-!
# Documents up to the order of members

Two documents are `Reordered` when they differ at most in the order in which their objects have their
members. A reader `Loads` a value from a document when it reads the value from every reordering of
it. A structure is loaded from an object field by field (`Reordered.exists_members`), because an
object whose members have distinct names offers each of them in any order.
-/

namespace ClassificationKey.Json

variable {α : Type} {name : String} {ms ms' : List (String × Json)} {json json' : Json}

/-- The same document, but for the order of the members of its objects. -/
inductive Reordered : Json → Json → Prop where
  | refl (json : Json) : Reordered json json
  | array {items items' : List Json} (hitems : List.Forall₂ Reordered items items') :
    Reordered (.array items) (.array items')
  | object {ms ms₁ ms' : List (String × Json)} (hnames : ms.map Prod.fst = ms₁.map Prod.fst)
    (hvalues : List.Forall₂ Reordered (ms.map Prod.snd) (ms₁.map Prod.snd)) (hperm : ms₁.Perm ms') :
    Reordered (.object ms) (.object ms')

/-- The document is read as `a`, in whatever order its members come. -/
def Loads (read : Json → Option α) (json : Json) (a : α) : Prop :=
  ∀ json', json.Reordered json' → read json' = some a

/-- Members of one name, the value of the second a reordering of that of the first. -/
def MemberReordered (m m' : String × Json) : Prop := m.1 = m'.1 ∧ m.2.Reordered m'.2

theorem forall₂_memberReordered (hnames : ms.map Prod.fst = ms'.map Prod.fst)
    (hvalues : List.Forall₂ Reordered (ms.map Prod.snd) (ms'.map Prod.snd)) :
    List.Forall₂ MemberReordered ms ms' := by
  induction ms generalizing ms' with
  | nil => cases ms' with
    | nil => exact .nil
    | cons m' ms' => cases hnames
  | cons m ms ih => cases ms' with
    | nil => cases hnames
    | cons m' ms' =>
      rw [List.map_cons, List.map_cons, List.cons.injEq] at hnames
      obtain ⟨hvalue, hrest⟩ := List.forall₂_cons.mp hvalues
      exact .cons ⟨hnames.1, hvalue⟩ (ih hnames.2 hrest)

theorem Reordered.exists_items {items : List Json} (h : (Json.array items).Reordered json) :
    ∃ items', json = .array items' ∧ List.Forall₂ Reordered items items' := by
  cases h with
  | refl => exact ⟨items, rfl, List.forall₂_same.mpr fun item _ => .refl item⟩
  | array hitems => exact ⟨_, rfl, hitems⟩

theorem Reordered.exists_members (h : (Json.object ms).Reordered json) :
    ∃ ms₁ ms', json = .object ms' ∧ List.Forall₂ MemberReordered ms ms₁ ∧ ms₁.Perm ms' := by
  cases h with
  | refl => exact ⟨ms, ms, rfl, List.forall₂_same.mpr fun m _ => ⟨rfl, .refl m.2⟩, .refl ms⟩
  | object hnames hvalues hperm => exact ⟨_, _, rfl, forall₂_memberReordered hnames hvalues, hperm⟩

/-! ## Fields of structures -/

theorem map_fst_of_memberReordered (h : List.Forall₂ MemberReordered ms ms') :
    ms.map Prod.fst = ms'.map Prod.fst := by
  induction h with
  | nil => rfl
  | cons hmember _ ih => rw [List.map_cons, List.map_cons, hmember.1, ih]

theorem membersNamed_of_mem (hnodup : (ms.map Prod.fst).Nodup) (h : (name, json) ∈ ms) :
    membersNamed name ms = [json] := by
  induction ms with
  | nil => cases h
  | cons m ms ih =>
    rw [List.map_cons, List.nodup_cons] at hnodup
    obtain ⟨hfresh, hrest⟩ := hnodup
    rw [membersNamed, List.filter_cons]
    rcases List.mem_cons.mp h with rfl | hmem
    · have hnone : ms.filter (fun member => member.1 == name) = [] := by
        refine List.filter_eq_nil_iff.mpr fun member hmember heq => hfresh ?_
        exact List.mem_map.mpr ⟨member, hmember, beq_iff_eq.mp heq⟩
      simp [hnone]
    · have hne : (m.1 == name) = false := by
        refine beq_eq_false_iff_ne.mpr fun heq => hfresh ?_
        exact List.mem_map.mpr ⟨_, hmem, heq.symm⟩
      rw [hne]
      exact ih hrest hmem

theorem length_membersNamed_le (hnodup : (ms.map Prod.fst).Nodup) (name : String) :
    (membersNamed name ms).length ≤ 1 := by
  by_cases hmem : name ∈ ms.map Prod.fst
  · obtain ⟨⟨_, json⟩, hm, rfl⟩ := List.mem_map.mp hmem
    rw [membersNamed_of_mem hnodup hm]
    exact Nat.le_refl 1
  · have hnone : membersNamed name ms = [] := by
      refine List.map_eq_nil_iff.mpr (List.filter_eq_nil_iff.mpr fun m hm heq => hmem ?_)
      exact List.mem_map.mpr ⟨m, hm, beq_iff_eq.mp heq⟩
    rw [hnone]
    exact Nat.zero_le 1

/-- Each of the members is given once, up to reordering. -/
def Offers (ms' ms : List (String × Json)) : Prop :=
  ∀ m ∈ ms, ∃ json', m.2.Reordered json' ∧ membersNamed m.1 ms' = [json']

theorem Reordered.exists_source (h : (Json.object ms).Reordered json) (fields : List String)
    (hfields : ms.map Prod.fst = fields) (hnodup : fields.Nodup) :
    ∃ ms', json.source? fields = some (.members ms') ∧ Offers ms' ms := by
  obtain ⟨ms₁, ms', rfl, hmembers, hperm⟩ := h.exists_members
  have hnames : (ms'.map Prod.fst).Nodup := by
    rw [← (hperm.map Prod.fst).nodup_iff, ← map_fst_of_memberReordered hmembers, hfields]
    exact hnodup
  refine ⟨ms', ?_, fun m hm => ?_⟩
  · exact if_pos (List.all_eq_true.mpr fun name _ =>
      decide_eq_true (length_membersNamed_le hnames name))
  · obtain ⟨m', hm', hname, hvalue⟩ := forall₂_exists_right hmembers m hm
    refine ⟨m'.2, hvalue, membersNamed_of_mem hnames ?_⟩
    rw [hname]
    exact hperm.mem_iff.mp hm'

namespace Offers

variable {read : Json → Option α} {a : α}

theorem exists_get? (h : Offers ms' ms) (name : String) (hmem : (name, json) ∈ ms) (place : Nat) :
    ∃ json', json.Reordered json' ∧ (Source.members ms').get? name place = some json' := by
  obtain ⟨json', hjson, hnamed⟩ := h _ hmem
  exact ⟨json', hjson, by rw [Source.get?, hnamed]; rfl⟩

theorem required (h : Offers ms' ms) (name : String) (hmem : (name, json) ∈ ms)
    (hload : json.Loads read a) (place : Nat) :
    (Source.members ms').required read name place = some a := by
  obtain ⟨json', hjson, hget⟩ := h.exists_get? name hmem place
  rw [Source.required, hget]
  exact hload json' hjson

theorem optional (h : Offers ms' ms) (name : String) (hmem : (name, json) ∈ ms)
    (hload : json.Loads read a) (default : α) (place : Nat) :
    (Source.members ms').optional read default name place = some a := by
  obtain ⟨json', hjson, hget⟩ := h.exists_get? name hmem place
  rw [Source.optional, hget]
  exact hload json' hjson

theorem option {read : Json → Option (Option α)} {o : Option α} (h : Offers ms' ms)
    (name : String) (hmem : (name, json) ∈ ms) (hload : json.Loads read o) (place : Nat) :
    (Source.members ms').option read name place = some o :=
  h.optional name hmem hload none place

end Offers

/-! ## Plain data -/

theorem loads_text (s : String) : (Json.text s).Loads toText? s := by
  intro json' h
  cases h
  rfl

theorem loads_bool (b : Bool) : (Json.bool b).Loads toBool? b := by
  intro json' h
  cases h
  rfl

theorem loads_count {n : Nat} (h : n < UInt64.size) : (Json.integer n).Loads toCount? n := by
  intro json' hjson
  cases hjson
  have hcount : (decide (0 ≤ (n : Int)) && decide ((n : Int) < UInt64.size)) = true := by
    rw [Bool.and_eq_true, decide_eq_true_eq, decide_eq_true_eq]
    exact ⟨Int.natCast_nonneg n, Int.ofNat_lt.mpr h⟩
  rw [toCount?, if_pos hcount, Int.toNat_natCast]

variable {β : Type} {write : β → Json} {read : Json → Option β}

/-- An option is kept apart from what it holds by `null`, which is no form of that. -/
theorem loads_ofOption {o : Option β} (hnull : read .null = none)
    (h : ∀ b ∈ o, (write b).Loads read b) : (ofOption write o).Loads (toOption read) o := by
  intro json' hjson
  cases o with
  | none =>
    cases hjson
    rfl
  | some b =>
    have hread := h b rfl json' hjson
    have hne : json' ≠ .null := by
      rintro rfl
      rw [hnull] at hread
      cases hread
    have hoption : toOption read json' = (read json').map some := by
      cases json' with
      | null => exact absurd rfl hne
      | _ => rfl
    rw [hoption, hread]
    rfl

theorem loads_array {bs : List β} (h : ∀ b ∈ bs, (write b).Loads read b) :
    (Json.array (bs.map write)).Loads (toList? read) bs := by
  intro json' hjson
  obtain ⟨items', rfl, hitems⟩ := hjson.exists_items
  rw [List.forall₂_map_left_iff] at hitems
  have hread := forall₂_imp_of_mem (fun b hb item => h b hb item) hitems
  exact mapM_eq_some_iff.mpr hread.flip

end ClassificationKey.Json
