import ClassificationKey.Proofs.Text.Trim
import ClassificationKey.Text.UpperCase
import Mathlib.Data.List.Basic
import Mathlib.Data.Nat.Bitwise

/-!
# Upper-cased texts

Upper-casing changes no code point outside `changedPoints`, and what it changes one to stands in
`upperPoints`. The two have nothing in common, and no upper case is a blank. So what is in upper case
stays as it is (`upper_upper`), and what is trimmed stays trimmed (`IsTrimmed.upper`).
-/

namespace ClassificationKey.Text

/-! ## Sets of code points as numbers -/

/-- The number whose binary ones stand at the given places. -/
def bits : List Nat → Nat
  | [] => 0
  | n :: ns => bits ns ||| 1 <<< n

theorem testBit_bits {ns : List Nat} {n : Nat} : (bits ns).testBit n = true ↔ n ∈ ns := by
  induction ns with
  | nil => simp [bits]
  | cons m ns ih =>
    rw [bits, Nat.testBit_or, Bool.or_eq_true, ih, Nat.one_shiftLeft, Nat.testBit_two_pow,
      decide_eq_true_eq, List.mem_cons, or_comm, eq_comm]

theorem disjoint_of_bits {ms ns : List Nat} (h : bits ms &&& bits ns = 0) : ms.Disjoint ns := by
  intro n hm hn
  have hbit : (bits ms &&& bits ns).testBit n = true := by
    rw [Nat.testBit_and, testBit_bits.mpr hm, testBit_bits.mpr hn, Bool.and_self]
  simp [h] at hbit

/-! ## What upper-casing changes -/

/-- The distances of the members of a run from its first. -/
def Shift.offsets (s : Shift) : List Nat :=
  (List.range ((s.last - s.first) / s.step + 1)).map (s.step * ·)

theorem Shift.exists_offset {s : Shift} {n m : Nat} (h : s.image? n = some m) :
    ∃ k ∈ s.offsets, s.first + k = n ∧ s.target + k = m := by
  rw [image?, Option.ite_none_right_eq_some, Option.some.injEq] at h
  obtain ⟨hsource, rfl⟩ := h
  simp only [Bool.and_eq_true, decide_eq_true_eq, beq_iff_eq] at hsource
  obtain ⟨⟨hfirst, hlast⟩, hstep⟩ := hsource
  refine ⟨n - s.first, ?_, by omega, by omega⟩
  have hdiv : (n - s.first) / s.step ≤ (s.last - s.first) / s.step :=
    Nat.div_le_div_right (Nat.sub_le_sub_right hlast s.first)
  refine List.mem_map.mpr ⟨(n - s.first) / s.step, List.mem_range.mpr (Nat.lt_succ_of_le hdiv), ?_⟩
  exact Nat.mul_div_cancel' (Nat.dvd_of_mod_eq_zero hstep)

/-- The letters that upper-casing changes: the small ones of ASCII and those of the tables. -/
def changedPoints : List Nat :=
  List.range' 97 26 ++ upperExpansions.map (·.1) ++
    upperShifts.flatMap fun s => s.offsets.map (s.first + ·)

/-- The letters that it changes them to. Zero is there for a code point of no character. -/
def upperPoints : List Nat :=
  0 :: List.range' 65 26 ++ upperExpansions.flatMap (·.2) ++
    upperShifts.flatMap fun s => s.offsets.map (s.target + ·)

def blankPoints : List Nat :=
  [0x20, 0x85, 0xA0, 0x1680, 0x2028, 0x2029, 0x202F, 0x205F, 0x3000] ++ List.range' 9 5 ++
    List.range' 0x2000 11

theorem disjoint_upperPoints : (blankPoints ++ changedPoints).Disjoint upperPoints :=
  disjoint_of_bits (by decide +kernel)

theorem mem_blankPoints {c : Char} (h : isBlank c = true) : c.toNat ∈ blankPoints := by
  simp only [isBlank, Bool.or_eq_true, Bool.and_eq_true, decide_eq_true_eq, beq_iff_eq] at h
  simp only [blankPoints, List.mem_append, List.mem_range'_1, List.mem_cons, List.not_mem_nil]
  omega

theorem toNat_ofNat_mem {n : Nat} (h : n ∈ upperPoints) : (Char.ofNat n).toNat ∈ upperPoints := by
  by_cases hvalid : n.isValidChar
  · have hvalue : (Char.ofNat n).toNat = n := congrArg Char.toNat (dif_pos hvalid)
    rwa [hvalue]
  · have hvalue : (Char.ofNat n).toNat = 0 := congrArg Char.toNat (dif_neg hvalid)
    rw [hvalue]
    exact List.mem_append_left _ (List.mem_append_left _ (List.mem_cons_self ..))

/-! ## The upper case of a character -/

theorem toUpper_of_not_mem {c : Char} (h : c.toNat ∉ List.range' 97 26) : c.toUpper = c := by
  refine dif_neg fun hlower => h ?_
  have hfirst : 97 ≤ c.val.toNat := UInt32.le_iff_toNat_le.mp hlower.1
  have hlast : c.val.toNat ≤ 122 := UInt32.le_iff_toNat_le.mp hlower.2
  have hn : c.toNat = c.val.toNat := rfl
  rw [List.mem_range'_1]
  omega

theorem toUpper_mem {c : Char} (h : c.toNat ∈ List.range' 97 26) :
    c.toUpper.toNat ∈ List.range' 65 26 := by
  have hn : c.toNat = c.val.toNat := rfl
  rw [List.mem_range'_1] at h ⊢
  have hlower : 'a'.val ≤ c.val ∧ c.val ≤ 'z'.val := by
    rw [UInt32.le_iff_toNat_le, UInt32.le_iff_toNat_le]
    exact ⟨show 97 ≤ c.val.toNat by omega, show c.val.toNat ≤ 122 by omega⟩
  have hupper : c.toUpper.toNat = (c.val + ('A'.val - 'a'.val)).toNat := by
    have hchar : c.toUpper = _ := dif_pos hlower
    rw [hchar]
    rfl
  have hdistance : ('A'.val - 'a'.val).toNat = 2 ^ 32 - 32 := by decide
  rw [hupper, UInt32.toNat_add, hdistance]
  omega

theorem upperChar_of_not_mem {c : Char} (h : c.toNat ∉ changedPoints) : upperChar c = [c] := by
  simp only [changedPoints, List.mem_append, not_or] at h
  obtain ⟨⟨hascii, hexpansions⟩, hshifts⟩ := h
  unfold upperChar
  split
  · rw [toUpper_of_not_mem hascii]
  · have hlookup : upperExpansions.lookup c.toNat = none := by
      rw [List.lookup_eq_none_iff]
      intro expansion hmem
      exact bne_iff_ne.mpr fun heq => hexpansions (heq ▸ List.mem_map_of_mem hmem)
    have hshift : upperShifts.findSome? (·.image? c.toNat) = none := by
      rw [List.findSome?_eq_none_iff]
      intro s hs
      cases himage : s.image? c.toNat with
      | none => rfl
      | some m =>
        obtain ⟨k, hk, hsource, -⟩ := Shift.exists_offset himage
        exact absurd (List.mem_flatMap.mpr ⟨s, hs, List.mem_map.mpr ⟨k, hk, hsource⟩⟩) hshifts
    rw [hlookup, shiftAll, hshift, Option.getD_none, Char.ofNat_toNat]

theorem upperExpansions_ne_nil : ∀ expansion ∈ upperExpansions, expansion.2 ≠ [] := by decide

/-- A character is its own upper case, or its upper case is made of upper case letters. -/
theorem upperChar_cases (c : Char) :
    upperChar c = [c] ∨ (upperChar c ≠ [] ∧ ∀ d ∈ upperChar c, d.toNat ∈ upperPoints) := by
  unfold upperChar
  split
  · by_cases hlower : c.toNat ∈ List.range' 97 26
    · refine .inr ⟨List.cons_ne_nil _ _, fun d hd => ?_⟩
      rw [List.mem_singleton.mp hd]
      simp [upperPoints, toUpper_mem hlower]
    · rw [toUpper_of_not_mem hlower]
      exact .inl rfl
  · split
    · next ns hlookup =>
      obtain ⟨before, after, hsplit, -⟩ := List.lookup_eq_some_iff.mp hlookup
      have hmem : (c.toNat, ns) ∈ upperExpansions := hsplit ▸ by simp
      refine .inr ⟨by simpa using upperExpansions_ne_nil _ hmem, fun d hd => ?_⟩
      obtain ⟨n, hn, rfl⟩ := List.mem_map.mp hd
      refine toNat_ofNat_mem (List.mem_append_left _ (List.mem_append_right _ ?_))
      exact List.mem_flatMap.mpr ⟨_, hmem, hn⟩
    · cases hshift : upperShifts.findSome? (·.image? c.toNat) with
      | none =>
        rw [shiftAll, hshift, Option.getD_none, Char.ofNat_toNat]
        exact .inl rfl
      | some m =>
        obtain ⟨s, hs, himage⟩ := List.exists_of_findSome?_eq_some hshift
        obtain ⟨k, hk, -, htarget⟩ := Shift.exists_offset himage
        refine .inr ⟨List.cons_ne_nil _ _, fun d hd => ?_⟩
        rw [List.mem_singleton.mp hd, shiftAll, hshift, Option.getD_some]
        refine toNat_ofNat_mem (List.mem_append_right _ ?_)
        exact List.mem_flatMap.mpr ⟨s, hs, List.mem_map.mpr ⟨k, hk, htarget⟩⟩

theorem upperChar_ne_nil (c : Char) : upperChar c ≠ [] := by
  rcases upperChar_cases c with h | ⟨hne, -⟩
  · simp [h]
  · exact hne

theorem upperChar_of_mem {c d : Char} (h : d ∈ upperChar c) : upperChar d = [d] := by
  rcases upperChar_cases c with hself | ⟨-, hupper⟩
  · rw [hself, List.mem_singleton] at h
    rw [h, hself]
  · refine upperChar_of_not_mem fun hchanged => ?_
    exact disjoint_upperPoints (List.mem_append_right _ hchanged) (hupper d h)

theorem isBlank_of_mem_upperChar {c d : Char} (hc : isBlank c = false) (h : d ∈ upperChar c) :
    isBlank d = false := by
  rcases upperChar_cases c with hself | ⟨-, hupper⟩
  · rw [hself, List.mem_singleton] at h
    rw [h, hc]
  · rw [Bool.eq_false_iff]
    intro hblank
    exact disjoint_upperPoints (List.mem_append_left _ (mem_blankPoints hblank)) (hupper d h)

/-! ## The upper case of a text -/

@[simp] theorem upper_upper (s : String) : upper (upper s) = upper s := by
  refine String.toList_inj.mp ?_
  rw [toList_upper, toList_upper, List.flatMap_assoc]
  refine List.flatMap_congr fun c _ => ?_
  calc (upperChar c).flatMap upperChar = (upperChar c).flatMap fun d => [d] :=
        List.flatMap_congr fun d hd => upperChar_of_mem hd
    _ = upperChar c := List.flatMap_singleton' _

theorem IsTrimmed.flatMap_upperChar {cs : List Char} (h : IsTrimmed cs) :
    IsTrimmed (cs.flatMap upperChar) := by
  constructor
  · cases cs with
    | nil => simp
    | cons c cs =>
      obtain ⟨d, ds, hupper⟩ := List.exists_cons_of_ne_nil (upperChar_ne_nil c)
      intro e he
      rw [List.flatMap_cons, hupper, List.cons_append, List.head?_cons, Option.mem_some_iff] at he
      subst he
      exact isBlank_of_mem_upperChar (h.head c rfl) (hupper ▸ List.mem_cons_self ..)
  · rcases List.eq_nil_or_concat' cs with rfl | ⟨cs, c, rfl⟩
    · simp
    · intro e he
      rw [List.flatMap_append, List.flatMap_singleton,
        List.getLast?_append_of_ne_nil _ (upperChar_ne_nil c)] at he
      exact isBlank_of_mem_upperChar (h.last c List.getLast?_concat) (List.mem_of_getLast? he)

theorem IsTrimmed.upper {s : String} (h : IsTrimmed s.toList) :
    IsTrimmed (Text.upper s).toList := by
  rw [toList_upper]
  exact h.flatMap_upperChar

end ClassificationKey.Text
