import ClassificationKey.RuleSet.Basic

/-!
# Testing texts against a rule set

A session tests records against guards given as texts, and remembers the guards it has compiled under
their trimmed texts. It remembers a bounded number of them; when a new guard finds no room, one
other goes, and which one is left to the caller.
-/

namespace ClassificationKey

/-- Compiled guards by their trimmed texts. -/
structure GuardCache where
  entries : Std.ExtTreeMap String Guard.Compiled

namespace GuardCache

/-- The greatest number of guards remembered. -/
def capacity : Nat := 1024

def empty : GuardCache := ⟨∅⟩

def size (c : GuardCache) : Nat := c.entries.size

/-- Removes one guard, the one numbered `i` in the order of the texts, counting round. -/
def evict (c : GuardCache) (i : Nat) : GuardCache :=
  match c.entries.keys[i % c.size]? with
  | some text => ⟨c.entries.erase text⟩
  | none => c

/-- Remembers a guard that is not in the cache, after making room if there is none. -/
def insert (c : GuardCache) (pick : GuardCache → Nat) (text : String) (g : Guard.Compiled) :
    GuardCache :=
  let roomy := if capacity ≤ c.size then c.evict (pick c) else c
  ⟨roomy.entries.insert text g⟩

end GuardCache

/-- A rule set with the guards compiled so far. -/
structure Session where
  rules : RuleSet
  cache : GuardCache

namespace Session

def start (rules : RuleSet) : Session := ⟨rules, .empty⟩

/-- The compiled guard of a text, from the cache if it is there. -/
def compile (s : Session) (pick : GuardCache → Nat) (text : String) :
    Except SyntaxError Guard.Compiled × Session :=
  let trimmed := Text.trim text
  match s.cache.entries[trimmed]? with
  | some g => (.ok g, s)
  | none =>
    match Guard.compile trimmed with
    | .ok g => (.ok g, { s with cache := s.cache.insert pick trimmed g })
    | .error e => (.error e, s)

/-- Tests a record against the guard of a text. -/
def test (s : Session) (pick : GuardCache → Nat) (text : String) (record : Record) :
    Except EvalError Bool × Session :=
  let (g, after) := s.compile pick text
  (s.rules.evaluateOutcome g record, after)

end Session

/-- Tests a record against the guard of a text, compiled afresh. -/
def RuleSet.test (rs : RuleSet) (text : String) (record : Record) : Except EvalError Bool :=
  rs.evaluateOutcome (Guard.compile (Text.trim text)) record

end ClassificationKey
