import Mathlib.Data.List.Induction
import Mathlib.Logic.Function.Iterate

/-!
# Steps, in Any Order

What several threads do to one thing is a relation: from a state, with an entry that says what
was done, to a state. A run is some of those steps, and all that is said of it is said of the
entries it leaves, so runs are cut and put together as lists are.

A run ends where one stops to look. That something is done at last cannot be said of it, only
of steps that go on without an end; there the system may stand still for as long as it likes,
and whatever is known of who gets a turn is a condition on the whole.

## Main definitions

* `Runs`: Some steps.
* `Endless`: Steps without an end, with moments in which nothing is done.
* `Endless.record`: What was done up to a moment.
* `Endless.alone`: A system that does what it can do by itself.

## Theorems

* `runs_append`, `runs_single`, `Runs.step_at`: Runs are cut where their entries are.
* `Runs.cons`, `Runs.append`, `Runs.snoc`: They are put together.
* `Runs.keeps`: What each step keeps, runs keep.
* `record_succ`, `record_prefix`: What was done grows.
* `Endless.runs`: What is done up to a moment is a run.
* `entry_alone`: What is done in a system of one.
-/

namespace Conduit.Steps

variable {S E : Type} {step : S → E → S → Prop} {s s' : S} {tr tr' : List E} {e : E}

/-- Some steps, one after the other. -/
def Runs (step : S → E → S → Prop) : S → List E → S → Prop
  | s, [], s' => s' = s
  | s, e :: tr, s' => ∃ mid, step s e mid ∧ Runs step mid tr s'

theorem runs_append :
    Runs step s (tr ++ tr') s' ↔ ∃ mid, Runs step s tr mid ∧ Runs step mid tr' s' := by
  induction tr generalizing s with
  | nil =>
      constructor
      · exact fun h => ⟨s, rfl, h⟩
      · rintro ⟨mid, rfl, h⟩
        exact h
  | cons e tr ih =>
      constructor
      · rintro ⟨next, hstep, hrest⟩
        rcases ih.mp hrest with ⟨mid, hbefore, hafter⟩
        exact ⟨mid, ⟨next, hstep, hbefore⟩, hafter⟩
      · rintro ⟨mid, ⟨next, hstep, hbefore⟩, hafter⟩
        exact ⟨next, hstep, ih.mpr ⟨mid, hbefore, hafter⟩⟩

theorem runs_single : Runs step s [e] s' ↔ step s e s' := by
  constructor
  · rintro ⟨mid, hstep, rfl⟩
    exact hstep
  · exact fun h => ⟨s', h, rfl⟩

/-- One step before others. -/
theorem Runs.cons {mid : S} (hstep : step s e mid) (h : Runs step mid tr s') :
    Runs step s (e :: tr) s' :=
  ⟨mid, hstep, h⟩

/-- One run after the other. -/
theorem Runs.append {mid : S} (h : Runs step s tr mid) (h' : Runs step mid tr' s') :
    Runs step s (tr ++ tr') s' :=
  runs_append.mpr ⟨mid, h, h'⟩

/-- One more step. -/
theorem Runs.snoc {mid : S} (h : Runs step s tr mid) (hstep : step mid e s') :
    Runs step s (tr ++ [e]) s' :=
  h.append (runs_single.mpr hstep)

/-- Each step of a run is taken from one of its moments. -/
theorem Runs.step_at {before after : List E} (h : Runs step s (before ++ e :: after) s') :
    ∃ mid next, Runs step s before mid ∧ step mid e next ∧ Runs step next after s' := by
  rcases runs_append.mp h with ⟨mid, hbefore, next, hstep, hafter⟩
  exact ⟨mid, next, hbefore, hstep, hafter⟩

/-- What holds at first and is kept by each step holds of every run. -/
theorem Runs.keeps {P : List E → S → Prop} (hstart : P [] s)
    (hstep : ∀ tr s e s', P tr s → step s e s' → P (tr ++ [e]) s') (h : Runs step s tr s') :
    P tr s' := by
  -- From the end: what a step keeps is said of the entries before it.
  induction tr using List.reverseRecOn generalizing s' with
  | nil =>
      cases h
      exact hstart
  | append_singleton tr e ih =>
      rcases runs_append.mp h with ⟨mid, hbefore, hlast⟩
      exact hstep tr mid e s' (ih hbefore) (runs_single.mp hlast)

/-- Steps without an end. There may be moments in which none is taken. -/
structure Endless (step : S → E → S → Prop) (s : S) where
  state : Nat → S
  entry : Nat → Option E
  start : state 0 = s
  next : ∀ n, match entry n with
    | some e => step (state n) e (state (n + 1))
    | none => state (n + 1) = state n

namespace Endless

/-- What was done before a moment. -/
def record (c : Endless step s) (n : Nat) : List E := (List.range n).filterMap c.entry

theorem record_succ (c : Endless step s) (n : Nat) :
    c.record (n + 1) = c.record n ++ (c.entry n).toList := by
  rw [record, List.range_succ, List.filterMap_append]
  -- In a moment in which nothing is done the state stays, and so does the record.
  cases hentry : c.entry n with
  | none => rw [List.filterMap_cons_none hentry]; rfl
  | some e => rw [List.filterMap_cons_some hentry]; rfl

theorem record_prefix (c : Endless step s) {m n : Nat} (h : m ≤ n) : c.record m <+: c.record n := by
  induction h with
  | refl => exact List.prefix_refl _
  | step _ ih =>
      rw [record_succ]
      exact ih.trans (List.prefix_append _ _)

theorem runs (c : Endless step s) (n : Nat) : Runs step s (c.record n) (c.state n) := by
  induction n with
  | zero => exact c.start
  | succ n ih =>
      have hnext := c.next n
      rw [record_succ]
      cases hentry : c.entry n with
      | none =>
          rw [hentry] at hnext
          rwa [Option.toList_none, List.append_nil, hnext]
      | some e =>
          rw [hentry] at hnext
          exact ih.snoc hnext

/-- The state after what a system does by itself. -/
def advance (go : S → Option (E × S)) (s : S) : S :=
  match go s with
  | some (_, s') => s'
  | none => s

/-- A system that does what it can do by itself, and otherwise stands still. -/
def alone (go : S → Option (E × S)) (hgo : ∀ s e s', go s = some (e, s') → step s e s') (s : S) :
    Endless step s where
  state n := (advance go)^[n] s
  entry n := (go ((advance go)^[n] s)).map Prod.fst
  start := rfl
  next n := by
    rw [Function.iterate_succ_apply', advance]
    cases h : go ((advance go)^[n] s) with
    | none => rfl
    | some result => exact hgo _ _ _ h

theorem entry_alone (go : S → Option (E × S))
    (hgo : ∀ s e s', go s = some (e, s') → step s e s') (s : S) (n : Nat) :
    (alone go hgo s).entry n = (go ((alone go hgo s).state n)).map Prod.fst := rfl

end Endless

end Conduit.Steps
