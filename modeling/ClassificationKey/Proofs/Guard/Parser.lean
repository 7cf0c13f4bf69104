import ClassificationKey.Guard.Parser
import ClassificationKey.Proofs.Guard.Grammar
import ClassificationKey.Proofs.Guard.Lexeme

/-!
# The guards that are read

The machine takes the tokens of an expression from any state in which one may start
(`Reads.isTaken`); and in every state it reaches, the tokens taken so far are those that the state
stands for (`Reading.Covers`). So it reads a row of tokens as a guard exactly when the grammar does
(`ofTokens?_eq_some_iff`). With the scanner, that says which texts are guards, and of which trees
(`parse_eq_ok_iff`).
-/

namespace ClassificationKey.Guard

/-! ## Expressions are taken -/

/-- From where an expression of the level may start, the tokens are taken as the guard. -/
def IsTaken (outer : List Frame) (ts : List Token) (g : Guard) : Level → Prop
  | .term => ∀ f : Frame, ts.foldlM Reading.step (.operand outer f) =
      some (.operator outer f.disjunct (f.conjoin g))
  | .factor => ∀ d c, ts.foldlM Reading.step (.operand outer ⟨d, c, false⟩) =
      some (.operator outer d (Frame.conjoin ⟨d, c, false⟩ g))
  | .conjunction => ∀ d, ts.foldlM Reading.step (.operand outer ⟨d, none, false⟩) =
      some (.operator outer d g)
  | .disjunction => ∃ d c, ts.foldlM Reading.step (.operand outer .start) =
      some (.operator outer d c) ∧ disjoin d c = g

theorem Reads.isTaken {l : Level} {ts : List Token} {g : Guard} (h : Reads l ts g) :
    ∀ outer, IsTaken outer ts g l := by
  induction h with
  | conjunction _ ih => exact fun outer => ⟨none, _, ih outer none, rfl⟩
  | or _ _ left right =>
    intro outer
    obtain ⟨d, c, hleft, rfl⟩ := left outer
    refine ⟨some (disjoin d c), _, ?_, rfl⟩
    rw [List.foldlM_append, hleft]
    exact right outer (some (disjoin d c))
  | factor _ ih => exact fun outer d => ih outer d none
  | and _ _ left right =>
    intro outer d
    rw [List.foldlM_append, left outer d]
    exact right outer d _
  | term _ ih => exact fun outer d c => ih outer ⟨d, c, false⟩
  | not _ ih => exact fun outer d c => ih outer ⟨d, c, true⟩
  | rule id => exact fun outer f => rfl
  | parenthesised _ ih =>
    intro outer f
    obtain ⟨d, c, hinner, rfl⟩ := ih (f :: outer)
    have hopening : Reading.step (.operand outer f) .opening = some (.operand (f :: outer) .start) :=
      rfl
    rw [List.cons_append, List.foldlM_cons, hopening, Option.bind_eq_bind, Option.bind_some,
      List.foldlM_append, hinner]
    rfl

/-! ## What a state stands for -/

/-- The tokens of a left operand and its operator, if there is one. -/
inductive LeftOf (op : Token) (l : Level) : Option Guard → List Token → Prop where
  | none : LeftOf op l none []
  | some {ts : List Token} {a : Guard} (left : Reads l ts a) : LeftOf op l (some a) (ts ++ [op])

/-- The tokens that lead to a frame from where its expression starts. -/
inductive Frame.Covers : Frame → List Token → Prop where
  | plain {d c : Option Guard} {ds cs : List Token} (disjunct : LeftOf .or .disjunction d ds)
      (conjunct : LeftOf .and .conjunction c cs) : Covers ⟨d, c, false⟩ (ds ++ cs)
  | negated {d c : Option Guard} {ds cs : List Token} (disjunct : LeftOf .or .disjunction d ds)
      (conjunct : LeftOf .and .conjunction c cs) : Covers ⟨d, c, true⟩ (ds ++ cs ++ [.not])

/-- The tokens up to the innermost of the open parentheses. -/
inductive OpenCovers : List Frame → List Token → Prop where
  | nil : OpenCovers [] []
  | cons {f : Frame} {outer : List Frame} {ts us : List Token} (enclosing : OpenCovers outer ts)
      (frame : f.Covers us) : OpenCovers (f :: outer) (ts ++ us ++ [.opening])

/-- The tokens that lead to a state. -/
inductive Reading.Covers : Reading → List Token → Prop where
  | operand {f : Frame} {outer : List Frame} {ts us : List Token} (enclosing : OpenCovers outer ts)
      (frame : f.Covers us) : Covers (.operand outer f) (ts ++ us)
  | operator {d : Option Guard} {g : Guard} {outer : List Frame} {ts ds cs : List Token}
      (enclosing : OpenCovers outer ts) (disjunct : LeftOf .or .disjunction d ds)
      (conjunct : Reads .conjunction cs g) : Covers (.operator outer d g) (ts ++ (ds ++ cs))

theorem LeftOf.disjoin {d : Option Guard} {g : Guard} {ds cs : List Token}
    (hd : LeftOf .or .disjunction d ds) (hg : Reads .conjunction cs g) :
    Reads .disjunction (ds ++ cs) (disjoin d g) := by
  cases hd with
  | none => exact .conjunction hg
  | some left =>
    rw [List.append_assoc]
    exact .or left hg

theorem LeftOf.conjoin {c : Option Guard} {g : Guard} {cs us : List Token}
    (hc : LeftOf .and .conjunction c cs) (hg : Reads .factor us g) (d : Option Guard) :
    Reads .conjunction (cs ++ us) (Frame.conjoin ⟨d, c, false⟩ g) := by
  cases hc with
  | none => exact .factor hg
  | some left =>
    rw [List.append_assoc]
    exact .and left hg

/-- A term completes the last conjunction of a frame. -/
theorem Frame.Covers.conjoin {f : Frame} {g : Guard} {us ts : List Token} (hf : f.Covers us)
    (hg : Reads .term ts g) :
    ∃ ds cs, us ++ ts = ds ++ cs ∧ LeftOf .or .disjunction f.disjunct ds ∧
      Reads .conjunction cs (f.conjoin g) := by
  cases hf with
  | plain disjunct conjunct =>
    exact ⟨_, _, List.append_assoc _ _ _, disjunct, conjunct.conjoin (.term hg) _⟩
  | @negated d c ds cs disjunct conjunct =>
    have hsplit : ds ++ cs ++ [.not] ++ ts = ds ++ (cs ++ .not :: ts) := by simp
    exact ⟨_, _, hsplit, disjunct, conjunct.conjoin (.not hg) d⟩

/-! ## Only expressions are read -/

namespace Reading

theorem covers_start : Reading.start.Covers [] :=
  .operand .nil (.plain .none .none)

/-- After a term the state awaits an operator. -/
theorem covers_operator {f : Frame} {g : Guard} {outer : List Frame} {ts us ws : List Token}
    (ho : OpenCovers outer ts) (hf : f.Covers us) (hg : Reads .term ws g) :
    (operator outer f.disjunct (f.conjoin g)).Covers (ts ++ (us ++ ws)) := by
  obtain ⟨ds, cs, hsplit, hd, hc⟩ := hf.conjoin hg
  rw [hsplit]
  exact .operator ho hd hc

theorem Covers.step {r r' : Reading} {t : Token} {ts : List Token} (h : r.Covers ts)
    (hstep : r.step t = some r') : r'.Covers (ts ++ [t]) := by
  cases h with
  | @operand f outer ts us ho hf =>
    cases t with
    | rule id =>
      cases hstep
      rw [List.append_assoc]
      exact covers_operator ho hf (.rule id)
    | not =>
      cases hf with
      | plain disjunct conjunct =>
        cases hstep
        rw [List.append_assoc]
        exact .operand ho (.negated disjunct conjunct)
      | negated _ _ => cases hstep
    | opening =>
      cases hstep
      rw [← List.append_nil (_ ++ [Token.opening])]
      exact .operand (.cons ho hf) (.plain .none .none)
    | _ => cases hstep
  | @operator d g outer ts ds cs ho hd hg =>
    cases t with
    | and =>
      cases hstep
      rw [List.append_assoc, List.append_assoc]
      exact .operand ho (.plain hd (.some hg))
    | or =>
      cases hstep
      rw [List.append_assoc, ← List.append_nil (_ ++ [Token.or])]
      exact .operand ho (.plain (.some (hd.disjoin hg)) .none)
    | closing =>
      cases ho with
      | nil => cases hstep
      | cons ho hf =>
        cases hstep
        have hterm := Reads.parenthesised (hd.disjoin hg)
        simpa using covers_operator ho hf hterm
    | _ => cases hstep

theorem Covers.foldlM {us : List Token} {r r' : Reading} {ts : List Token} (h : r.Covers ts)
    (hrun : us.foldlM Reading.step r = some r') : r'.Covers (ts ++ us) := by
  induction us generalizing r ts with
  | nil =>
    cases hrun
    rwa [List.append_nil]
  | cons t us ih =>
    rw [List.foldlM_cons, Option.bind_eq_bind, Option.bind_eq_some_iff] at hrun
    obtain ⟨between, hstep, hrun⟩ := hrun
    rw [List.append_cons]
    exact ih (h.step hstep) hrun

theorem Covers.finish {r : Reading} {g : Guard} {ts : List Token} (h : r.Covers ts)
    (hfinish : r.finish = some g) : Reads .disjunction ts g := by
  cases h with
  | operand _ _ => cases hfinish
  | operator ho hd hg =>
    cases ho with
    | nil =>
      cases hfinish
      exact hd.disjoin hg
    | cons _ _ => cases hfinish

end Reading

/-! ## Reading -/

/-- A row of tokens is read as the guard that the grammar gives it. -/
theorem ofTokens?_eq_some_iff {ts : List Token} {g : Guard} :
    ofTokens? ts = some g ↔ Reads .disjunction ts g := by
  unfold ofTokens?
  rw [Option.bind_eq_some_iff]
  constructor
  · rintro ⟨r, hrun, hfinish⟩
    exact (Reading.covers_start.foldlM hrun).finish hfinish
  · intro h
    obtain ⟨d, c, hrun, rfl⟩ := h.isTaken []
    exact ⟨_, hrun, rfl⟩

/-- No row of tokens has two trees. -/
theorem Reads.unique {ts : List Token} {a b : Guard} (ha : Reads .disjunction ts a)
    (hb : Reads .disjunction ts b) : a = b := by
  rw [← ofTokens?_eq_some_iff] at ha hb
  exact Option.some.inj (ha.symm.trans hb)

theorem parse_eq_ok_iff_reads {s : String} {g : Guard} :
    parse s = .ok g ↔ Text.trim s ≠ "" ∧
      ∃ ts, Spells (Text.trim s).toList ts ∧ Reads .disjunction ts g := by
  have hchars : ofChars? (Text.trim s).toList = some g ↔
      ∃ ts, Spells (Text.trim s).toList ts ∧ Reads .disjunction ts g := by
    simp only [ofChars?, Option.bind_eq_some_iff, scan?_eq_some_iff, ofTokens?_eq_some_iff]
  rw [← hchars, parse]
  by_cases hempty : Text.trim s = ""
  · simp [hempty]
  · cases hg : ofChars? (Text.trim s).toList <;> simp [hempty]

/-- A text is a guard exactly when, trimmed, it is not empty and falls into tokens that make an
expression; and it is the guard that the grammar gives to its tokens. -/
theorem parse_eq_ok_iff (s : String) :
    ((∃ g, parse s = .ok g) ↔ Text.trim s ≠ "" ∧
        ∃ ts, Spells (Text.trim s).toList ts ∧ Phrase .expression ts) ∧
      ∀ g, parse s = .ok g ↔ Text.trim s ≠ "" ∧
        ∃ ts, Spells (Text.trim s).toList ts ∧ Reads .disjunction ts g := by
  refine ⟨?_, fun g => parse_eq_ok_iff_reads⟩
  simp only [parse_eq_ok_iff_reads, ← exists_reads_iff (s := .expression)]
  constructor
  · rintro ⟨g, hne, ts, hspells, hreads⟩
    exact ⟨hne, ts, hspells, g, hreads⟩
  · rintro ⟨hne, ts, hspells, g, hreads⟩
    exact ⟨g, hne, ts, hspells, hreads⟩

end ClassificationKey.Guard
