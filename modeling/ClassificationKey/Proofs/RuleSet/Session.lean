import ClassificationKey.Proofs.Classification.Walk
import ClassificationKey.Proofs.Graph.Declared
import ClassificationKey.Proofs.Text.Trim
import ClassificationKey.RuleSet.Session

/-!
# The answers of a session

What a session remembers is not seen in its answers. `GuardCache.Sound` holds before and after every
test: no more guards than there is room for, each under its trimmed text and compiled from it. So a
guard that is found is the one that compiling would yield, and a session answers as if it compiled
every text afresh (`run_start`), whichever guards go when there is no room.
-/

namespace ClassificationKey

namespace GuardCache

variable {c : GuardCache} {text key : String} {g : Guard.Compiled}

/-! ## Making room -/

/-- Any guard that is remembered may be the one that goes. -/
theorem exists_evict_eq_erase (h : text ∈ c.entries) :
    ∃ i, c.evict i = ⟨c.entries.erase text⟩ := by
  obtain ⟨i, hi, hat⟩ := List.mem_iff_getElem.mp (Std.ExtTreeMap.mem_keys.mpr h)
  have hlt : i < c.size := by rwa [size, ← Std.ExtTreeMap.length_keys]
  refine ⟨i, ?_⟩
  rw [evict, Nat.mod_eq_of_lt hlt, List.getElem?_eq_getElem hi, hat]

/-- Just one guard goes, if there is any. -/
theorem evict_of_pos (h : 0 < c.size) (i : Nat) :
    ∃ text ∈ c.entries, c.evict i = ⟨c.entries.erase text⟩ := by
  have hlt : i % c.size < c.entries.keys.length := by
    rw [Std.ExtTreeMap.length_keys]
    exact Nat.mod_lt i h
  refine ⟨c.entries.keys[i % c.size], Std.ExtTreeMap.mem_keys.mp (List.getElem_mem hlt), ?_⟩
  rw [evict, List.getElem?_eq_getElem hlt]

theorem size_evict (h : 0 < c.size) (i : Nat) : (c.evict i).size = c.size - 1 := by
  obtain ⟨text, hmem, hevict⟩ := evict_of_pos h i
  rw [hevict, size, Std.ExtTreeMap.size_erase, if_pos (Std.ExtTreeMap.contains_iff_mem.mpr hmem)]
  rfl

theorem getElem?_of_evict {i : Nat} (h : (c.evict i).entries[key]? = some g) :
    c.entries[key]? = some g := by
  unfold evict at h
  split at h
  · rw [Std.ExtTreeMap.getElem?_erase] at h
    split at h
    · cases h
    · exact h
  · exact h

/-- The cache with room for one more guard. -/
def roomy (c : GuardCache) (pick : GuardCache → Nat) : GuardCache :=
  if capacity ≤ c.size then c.evict (pick c) else c

theorem size_roomy_lt (h : c.size ≤ capacity) (pick : GuardCache → Nat) :
    (c.roomy pick).size < capacity := by
  unfold roomy
  split
  · next hfull =>
    have hpos : 0 < c.size := Nat.lt_of_lt_of_le (by decide) hfull
    have hsize := size_evict hpos (pick c)
    omega
  · next hfree => exact Nat.lt_of_not_le hfree

theorem getElem?_of_roomy {pick : GuardCache → Nat} (h : (c.roomy pick).entries[key]? = some g) :
    c.entries[key]? = some g := by
  unfold roomy at h
  split at h
  · exact getElem?_of_evict h
  · exact h

theorem getElem?_insert (c : GuardCache) (pick : GuardCache → Nat) (text key : String)
    (g : Guard.Compiled) :
    (c.insert pick text g).entries[key]? =
      if text = key then some g else (c.roomy pick).entries[key]? := by
  rw [insert, Std.ExtTreeMap.getElem?_insert]
  simp only [Std.compare_eq_iff_eq]
  rfl

/-! ## Soundness -/

/-- What holds of the cache between tests. -/
structure Sound (c : GuardCache) : Prop where
  size_le : c.size ≤ capacity
  trimmed : ∀ text g, c.entries[text]? = some g → Text.trim text = text
  compiled : ∀ text g, c.entries[text]? = some g → Guard.compile text = .ok g

theorem sound_empty : empty.Sound where
  size_le := by simp [size, empty]
  trimmed := by simp [empty]
  compiled := by simp [empty]

theorem Sound.insert (h : c.Sound) (htrimmed : Text.trim text = text)
    (hcompiled : Guard.compile text = .ok g) (pick : GuardCache → Nat) :
    (c.insert pick text g).Sound where
  size_le := by
    have hroom := size_roomy_lt h.size_le pick
    exact Nat.le_trans Std.ExtTreeMap.size_insert_le hroom
  trimmed := by
    intro key g' hkey
    rw [getElem?_insert] at hkey
    split at hkey
    · next htext => exact htext ▸ htrimmed
    · exact h.trimmed key g' (getElem?_of_roomy hkey)
  compiled := by
    intro key g' hkey
    rw [getElem?_insert] at hkey
    split at hkey
    · next htext =>
      cases hkey
      exact htext ▸ hcompiled
    · exact h.compiled key g' (getElem?_of_roomy hkey)

end GuardCache

/-- The edge of a declaration is true of a record when the text of the declaration is. -/
theorem DecisionGraph.Declares.truth_eq {couplets : List Couplet} {d : Declaration} {e : Edge}
    (h : Declares couplets d e) (rules : RuleSet) (record : Record) :
    e.truth rules record = rules.test d.expression record := by
  rw [Edge.truth, RuleSet.test, e.guard_eq, h.expression]

namespace Session

/-! ## One test -/

/-- A text that is compiled through the cache is compiled as it would be afresh; the cache stays
sound, and remembers the text if and only if it compiles. -/
structure Compiles (s : Session) (text : String) (result : Except SyntaxError Guard.Compiled)
    (after : Session) : Prop where
  result_eq : result = Guard.compile (Text.trim text)
  rules_eq : after.rules = s.rules
  sound : after.cache.Sound
  remembered : ∀ g, after.cache.entries[Text.trim text]? = some g ↔
    Guard.compile (Text.trim text) = .ok g

variable {s : Session}

theorem compiles_compile (h : s.cache.Sound) (pick : GuardCache → Nat) (text : String) :
    s.Compiles text (s.compile pick text).1 (s.compile pick text).2 := by
  cases hfound : s.cache.entries[Text.trim text]? with
  | some g =>
    have hg := h.compiled _ g hfound
    have hcompile : s.compile pick text = (.ok g, s) := by
      rw [compile, hfound]
    rw [hcompile]
    exact ⟨hg.symm, rfl, h, fun g' => by rw [hfound, hg, Option.some.injEq, Except.ok.injEq]⟩
  | none =>
    cases hg : Guard.compile (Text.trim text) with
    | error e =>
      have hcompile : s.compile pick text = (.error e, s) := by
        rw [compile, hfound, hg]
      rw [hcompile]
      exact ⟨hg.symm, rfl, h, fun g' => by simp [hfound, hg]⟩
    | ok g =>
      have hcompile : s.compile pick text =
          (.ok g, { s with cache := s.cache.insert pick (Text.trim text) g }) := by
        rw [compile, hfound, hg]
      rw [hcompile]
      refine ⟨hg.symm, rfl, h.insert (Text.trim_trim text) hg pick, fun g' => ?_⟩
      rw [GuardCache.getElem?_insert, if_pos rfl, hg, Option.some.injEq, Except.ok.injEq]

/-- A test that is asked of a session: the text, the record, and the choice of the guard that goes
if there is no room. -/
structure Call where
  text : String
  record : Record
  pick : GuardCache → Nat

def answer (s : Session) (call : Call) : Except EvalError Bool :=
  (s.test call.pick call.text call.record).1

/-- The session after a call. -/
def after (s : Session) (call : Call) : Session := (s.test call.pick call.text call.record).2

theorem compiles_after (h : s.cache.Sound) (call : Call) :
    s.Compiles call.text (s.compile call.pick call.text).1 (s.after call) :=
  compiles_compile h call.pick call.text

theorem answer_eq (h : s.cache.Sound) (call : Call) :
    s.answer call = s.rules.test call.text call.record := by
  rw [RuleSet.test, ← (compiles_after h call).result_eq]
  rfl

/-! ## All tests -/

/-- The answers to calls in turn, and the session after the last. -/
def run (s : Session) : List Call → List (Except EvalError Bool) × Session
  | [] => ([], s)
  | call :: calls =>
    let (answers, last) := (s.after call).run calls
    (s.answer call :: answers, last)

@[simp] theorem run_nil (s : Session) : s.run [] = ([], s) := rfl

@[simp] theorem run_cons (s : Session) (call : Call) (calls : List Call) :
    s.run (call :: calls) =
      (s.answer call :: ((s.after call).run calls).1, ((s.after call).run calls).2) :=
  rfl

theorem run_concat (s : Session) (calls : List Call) (call : Call) :
    (s.run (calls ++ [call])).2 = (s.run calls).2.after call := by
  induction calls generalizing s with
  | nil => simp
  | cons first calls ih => rw [List.cons_append, run_cons, run_cons, ih]

/-- The answers to calls are those of the rules, and the cache stays sound. -/
theorem run_of_sound (h : s.cache.Sound) (calls : List Call) :
    (s.run calls).1 = calls.map (fun call => s.rules.test call.text call.record) ∧
      (s.run calls).2.cache.Sound := by
  induction calls generalizing s with
  | nil => exact ⟨rfl, h⟩
  | cons call calls ih =>
    have hcall := compiles_after h call
    obtain ⟨hanswers, hsound⟩ := ih hcall.sound
    rw [hcall.rules_eq] at hanswers
    rw [run_cons, List.map_cons, answer_eq h call, hanswers]
    exact ⟨rfl, hsound⟩

theorem rules_run_of_sound (h : s.cache.Sound) (calls : List Call) :
    (s.run calls).2.rules = s.rules := by
  induction calls generalizing s with
  | nil => rfl
  | cons call calls ih =>
    have hcall := compiles_after h call
    rw [run_cons, ih hcall.sound, hcall.rules_eq]

/-- What has been asked before does not show in an answer. -/
theorem answer_run (rules : RuleSet) (calls : List Call) (call : Call) :
    ((start rules).run calls).2.answer call = rules.test call.text call.record := by
  have hsound := (run_of_sound (s := start rules) GuardCache.sound_empty calls).2
  rw [answer_eq hsound, rules_run_of_sound GuardCache.sound_empty]
  rfl

/-- Whatever is asked of a session from its start, and whichever guards go when there is no room:
every answer is that of the text compiled afresh, which is also the truth of every edge that is
declared with the text; and after every call the cache is sound, and remembers the last text if and
only if it compiles. -/
theorem run_start (rules : RuleSet) :
    (∀ calls, ((start rules).run calls).1 =
      calls.map fun call => rules.test call.text call.record) ∧
      (∀ calls, ((start rules).run calls).2.cache.Sound) ∧
      (∀ calls call g,
        ((start rules).run (calls ++ [call])).2.cache.entries[Text.trim call.text]? = some g ↔
          Guard.compile (Text.trim call.text) = .ok g) ∧
      ∀ description declared check locate g,
        DecisionGraph.assemble description declared check locate = .ok g →
          List.Forall₂ (fun (d : Declaration) (e : Edge) =>
            ∀ record, e.truth rules record = rules.test d.expression record) declared g.edges := by
  have hstart : (start rules).cache.Sound := GuardCache.sound_empty
  have hrun := fun calls => run_of_sound hstart calls
  refine ⟨fun calls => (hrun calls).1, fun calls => (hrun calls).2, ?_, ?_⟩
  · intro calls call g
    rw [run_concat]
    exact (compiles_after (hrun calls).2 call).remembered g
  · intro description declared check locate g hg
    have hdeclared := DecisionGraph.link_eq_ok_iff_isDeclaredBy.mp
      (DecisionGraph.assemble_eq_ok_iff.mp hg).1
    refine hdeclared.edges.imp ?_
    intro d e hde record
    exact hde.truth_eq rules record

/-- The first text is not trimmed, and the second is no guard. -/
def looseTexts : List Declaration :=
  [⟨.number 0, "  not 1 ", ⟨.number 1, .branch, "Shape", ""⟩⟩,
    ⟨.number 1, "2 or", ⟨.text "R", .terminal, "Round", ""⟩⟩]

theorem truth_looseTexts :
    ∃ g, DecisionGraph.assemble "Key" looseTexts false (fun _ e => e) = .ok g ∧
      List.Forall₂ (fun (d : Declaration) (e : Edge) =>
        ∀ record, e.truth .empty record = RuleSet.empty.test d.expression record)
        looseTexts g.edges := by
  obtain ⟨g, hg⟩ : ∃ g, DecisionGraph.assemble "Key" looseTexts false (fun _ e => e) = .ok g :=
    ⟨_, rfl⟩
  exact ⟨g, hg, (run_start .empty).2.2.2 "Key" looseTexts false _ g hg⟩

end Session

end ClassificationKey
