import ClassificationKey.Text.Blank
import Mathlib.Data.List.DropRight

/-!
# Trimmed texts

`IsTrimmed` is the normal form of trimming: trimming yields it (`isTrimmed_trimChars`) and leaves it
as it is (`IsTrimmed.trimChars_eq`). A text is trimmed to nothing exactly when it consists of
blanks.
-/

namespace ClassificationKey.Text

/-- Neither the first character nor the last is a blank. -/
structure IsTrimmed (cs : List Char) : Prop where
  head : ∀ c ∈ cs.head?, isBlank c = false
  last : ∀ c ∈ cs.getLast?, isBlank c = false

theorem trimChars_eq_rdropWhile (cs : List Char) :
    trimChars cs = (cs.dropWhile isBlank).rdropWhile isBlank := rfl

theorem head?_dropWhile_isBlank (cs : List Char) :
    ∀ c ∈ (cs.dropWhile isBlank).head?, isBlank c = false := by
  intro c hc
  have h := List.head?_dropWhile_not isBlank cs
  rw [Option.mem_def.mp hc] at h
  exact h

theorem isTrimmed_trimChars (cs : List Char) : IsTrimmed (trimChars cs) := by
  rw [trimChars_eq_rdropWhile]
  constructor
  · -- what is left after dropping at the end starts as before
    intro c hc
    obtain ⟨rest, hrest⟩ := List.rdropWhile_prefix isBlank (cs.dropWhile isBlank)
    refine head?_dropWhile_isBlank cs c ?_
    rw [← hrest, List.head?_append, Option.mem_def.mp hc]
    rfl
  · intro c hc
    obtain ⟨hne, rfl⟩ := List.mem_getLast?_eq_getLast hc
    simpa using List.rdropWhile_last_not isBlank _ hne

theorem IsTrimmed.trimChars_eq {cs : List Char} (h : IsTrimmed cs) : trimChars cs = cs := by
  have hfront : cs.dropWhile isBlank = cs := by
    cases cs with
    | nil => rfl
    | cons c cs => exact List.dropWhile_cons_of_neg (by simp [h.head c rfl])
  rw [trimChars_eq_rdropWhile, hfront, List.rdropWhile_eq_self_iff]
  intro hne
  simp [h.last _ (List.getLast_mem_getLast? hne)]

theorem IsTrimmed.trim_eq {s : String} (h : IsTrimmed s.toList) : trim s = s := by
  rw [trim, h.trimChars_eq, String.ofList_toList]

theorem trimChars_trimChars (cs : List Char) : trimChars (trimChars cs) = trimChars cs :=
  (isTrimmed_trimChars cs).trimChars_eq

@[simp] theorem trim_trim (s : String) : trim (trim s) = trim s := by
  refine IsTrimmed.trim_eq ?_
  rw [toList_trim]
  exact isTrimmed_trimChars s.toList

/-- A text without blanks is trimmed. -/
theorem isTrimmed_of_all {cs : List Char} (h : cs.all (fun c => !isBlank c) = true) :
    IsTrimmed cs := by
  have hnone (c : Char) (hc : c ∈ cs) : isBlank c = false := by
    simpa using List.all_eq_true.mp h c hc
  exact ⟨fun c hc => hnone c (List.mem_of_head? hc), fun c hc => hnone c (List.mem_of_getLast? hc)⟩

theorem trimChars_eq_nil_iff {cs : List Char} : trimChars cs = [] ↔ ∀ c ∈ cs, isBlank c = true := by
  rw [trimChars_eq_rdropWhile, List.rdropWhile_eq_nil_iff]
  constructor
  · intro h
    -- a character that is left at the front would be a blank and no blank
    have hnil : cs.dropWhile isBlank = [] := by
      by_contra hne
      obtain ⟨c, rest, hcons⟩ := List.exists_cons_of_ne_nil hne
      have hfalse := head?_dropWhile_isBlank cs c (by rw [hcons]; rfl)
      rw [h c (by simp [hcons])] at hfalse
      cases hfalse
    exact List.dropWhile_eq_nil_iff.mp hnil
  · intro h c hc
    exact h c ((List.dropWhile_suffix isBlank).subset hc)

theorem trim_ne_empty {s : String} {c : Char} (hmem : c ∈ s.toList) (hc : isBlank c = false) :
    trim s ≠ "" := by
  intro h
  have hnil : trimChars s.toList = [] := by
    rw [← toList_trim, h]
    rfl
  rw [trimChars_eq_nil_iff.mp hnil c hmem] at hc
  cases hc

end ClassificationKey.Text
