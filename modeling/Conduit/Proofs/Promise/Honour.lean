import Conduit.Pipeline.Dispatch
import Conduit.Proofs.Promise.Race

/-!
# Promises Are Kept Once

What a race for a promise comes to, whatever the threads do and in whatever order their steps
come. One attempt at most keeps the promise, it is the first one, and what it settles stays. A
listener is called once and not before that; those that were registered are called in the order
in which they came, and a panic of one of them does not matter to the others. Whoever was sent
to sleep by a poll is woken afterwards.

A thread may be held up for as long as one likes, so at any one moment some of that may still
be to come. How much that is can be counted, and each step by which a thread finishes what it
is in the middle of makes it less by one. Those steps never run out before there is nothing
left to do, so no call waits for another one.

The library does not know of threads: it settles a promise in one go, calling each listener in
turn. `complete_plays` and `listen_plays` say that this is one of the ways in which a thread can
go through its steps.

## Main definitions

* `Race.Quiet`: No thread is in the middle of a call to the promise.
* `Race.weight`: How many steps finish what is under way.
* `Honoured`: What holds of a run.
* `Plays`: Steps of one thread while the others stand still.

## Theorems

* `Runs.trans`, `Runs.cut`, `Runs.step_at`: Runs, one after the other.
* `Runs.standing`: How things stand after a run.
* `Acts.lasting`, `Runs.lasting`: The outcome stays.
* `weigh_append`, `weight_at`, `weight_own`, `exists_own`, `quiet_of_weight`,
  `exists_finish`, `weight_owns`: What is under way can be finished.
* `mem_asleep`, `mem_woken`, `woken_after`: Who is sent to sleep and woken.
* `Standing.kept_iff`, `runs_timely`: When a step comes.
* `Acts.answered`, `runs_answered`: What a poll is answered.
* `run_honoured`: What holds of every run.
* `sampleFeats_runs`, `run_honoured_sampleFeats`: Two threads, two listeners and a poll.
* `Plays.trans`, `Plays.single`, `Plays.runs`: What one thread does.
* `promise_setPromise`, `plays_wake`, `promises_tell`, `promise_tell`, `plays_tell`: How the
  library wakes sleepers and calls listeners.
* `complete_plays`, `listen_plays`: The library settles a promise as a thread does.
-/

namespace Conduit.Promise

/-- A step that finishes something that is under way. -/
def Feat.Own : Feat → Prop
  | .confirmed | .told _ | .toldLate _ | .woken _ | .left _ => True
  | _ => False

/-- How many steps finish what a thread is in the middle of. -/
def Frame.weight : Frame → Nat
  | .code _ => 1
  | .telling wakers listeners => 2 * (wakers.length + listeners.length) + 1
  | .owing _ => 2

/-- How many steps finish what threads are in the middle of. -/
def weigh : List Frame → Nat
  | [] => 0
  | f :: fs => f.weight + weigh fs

namespace Race

/-- No thread is in the middle of a call to the promise. -/
def Quiet (s : Race) : Prop := telling s.frames = [] ∧ owed s.frames = []

/-- How many steps finish what is under way. -/
def weight (s : Race) : Nat := weigh s.frames

/-- The listeners that are still to be called, those that were registered first. -/
def outstanding (s : Race) : List Listener :=
  s.promise.listeners ++ (telling s.frames).flatMap (·.2) ++ owed s.frames

end Race

open Race (Step Runs)

/-- What holds of a run, at any moment. -/
structure Honoured (tr : List Feat) (s : Race) : Prop where
  /-- At most one attempt has kept the promise, and what it has settled is the outcome. -/
  once : (kept tr = [] ∧ s.promise.outcome = none) ∨
    ∃ outcome, kept tr = [outcome] ∧ s.promise.outcome = some outcome
  /-- The outcome stays, whatever is done next. -/
  lasting : ∀ outcome, s.promise.outcome = some outcome → ∀ tr' s', Runs s tr' s' →
    s'.promise.outcome = some outcome
  /-- Nothing is refused and nobody is called or woken before the promise is kept. After that it
      is not kept again, and nobody is registered or sent to sleep. -/
  timely : ∀ before e after, tr = before ++ e :: after →
    (kept before = [] → ¬ e.Late) ∧ (kept before ≠ [] → ¬ e.Early)
  /-- The attempt that has kept the promise answers true when all have been told, and no other
      attempt does. -/
  confirmed : confirmations tr + (telling s.frames).length = (kept tr).length
  /-- Each listener is called once, or is still to be called. -/
  called : (told tr ++ toldLate tr ++ s.outstanding).Perm (registered tr ++ late tr)
  /-- Those that were registered are called in the order in which they came. -/
  order : told tr <+: registered tr
  /-- Once the promise is kept and no call is under way, all have been told that it is. -/
  settled : s.Quiet → s.promise.outcome ≠ none → confirmations tr = 1 ∧
    told tr = registered tr ∧ (toldLate tr).Perm (late tr) ∧
    ∀ before waker after, tr = before ++ .polled waker none :: after → .woken waker ∈ after
  /-- A poll that is answered is answered with the outcome. -/
  answered : ∀ waker outcome, .polled waker (some outcome) ∈ tr → kept tr = [outcome]
  /-- What is under way can be finished, and there is an end to it. -/
  finish : ∃ tr' s', Runs s tr' s' ∧ (∀ e ∈ tr', e.Own) ∧ s'.Quiet
  bounded : ∀ tr' s', Runs s tr' s' → (∀ e ∈ tr', e.Own) → tr'.length + s'.weight = s.weight

variable {tr tr' : List Feat} {s s' : Race} {e : Feat} {outcome : Outcome} {p p' : Promise}
  {thread thread' : List Frame}

/-! ### Runs -/

namespace Race.Runs

theorem trans {mid : Race} (h : Runs s tr mid) (h' : Runs mid tr' s') : Runs s (tr ++ tr') s' := by
  induction h' with
  | refl => rwa [List.append_nil]
  | step _ hstep ih =>
      rw [← List.append_assoc]
      exact ih.step hstep

/-- A run goes through each of its moments. -/
theorem cut {before after : List Feat} (h : Runs s (before ++ after) s') :
    ∃ mid, Runs s before mid ∧ Runs mid after s' := by
  generalize htr : before ++ after = tr at h
  induction h generalizing after with
  | refl =>
      rcases List.append_eq_nil_iff.mp htr with ⟨rfl, rfl⟩
      exact ⟨s, refl, refl⟩
  | @step tr₀ mid₀ s₀ e hrun hstep ih =>
      rcases List.eq_nil_or_concat' after with rfl | ⟨after, e', rfl⟩
      · rw [List.append_nil] at htr
        exact ⟨s₀, htr ▸ hrun.step hstep, refl⟩
      · rw [← List.append_assoc] at htr
        rcases List.append_inj' htr rfl with ⟨hinit, he⟩
        cases he
        rcases ih hinit with ⟨mid, hbefore, hafter⟩
        exact ⟨mid, hbefore, hafter.step hstep⟩

/-- Each step of a run is taken from one of its moments. -/
theorem step_at {before after : List Feat} (h : Runs s (before ++ e :: after) s') :
    ∃ mid next, Runs s before mid ∧ Step mid e next ∧ Runs next after s' := by
  rw [List.append_cons] at h
  rcases h.cut with ⟨next, hbefore, hafter⟩
  generalize htr : before ++ [e] = tr at hbefore
  cases hbefore with
  | refl => exact absurd htr (by simp)
  | step hrun hstep =>
      rcases List.append_inj' htr rfl with ⟨rfl, he⟩
      cases he
      exact ⟨_, next, hrun, hstep, hafter⟩

theorem standing {n : Nat} (h : Runs (Race.start n) tr s) : Standing tr s.promise s.frames := by
  induction h with
  | refl => exact Standing.start n
  | step _ hstep ih =>
      rcases hstep with ⟨before, after, hacts⟩
      rw [frames_at] at ih ⊢
      exact ih.acts hacts

end Race.Runs

/-- The outcome stays. -/
theorem Acts.lasting (h : Acts p thread e p' thread') (hsome : p.outcome = some outcome) :
    p'.outcome = some outcome := by
  cases h with
  | keep hkeep => exact nomatch (Standing.keep_eq_some hkeep).1.symm.trans hsome
  | register hlisten => exact nomatch (Standing.listen_eq_some hlisten).1.symm.trans hsome
  | poll => rwa [poll_some hsome]
  | _ => exact hsome

theorem Race.Runs.lasting (h : Runs s tr s') (hsome : s.promise.outcome = some outcome) :
    s'.promise.outcome = some outcome := by
  induction h with
  | refl => exact hsome
  | step _ hstep ih =>
      rcases hstep with ⟨before, after, hacts⟩
      exact hacts.lasting ih

/-! ### What is left to do -/

theorem weigh_append (fs gs : List Frame) : weigh (fs ++ gs) = weigh fs + weigh gs := by
  induction fs with
  | nil => rw [List.nil_append, weigh, Nat.zero_add]
  | cons f fs ih => rw [List.cons_append, weigh, ih, weigh, Nat.add_assoc]

theorem weight_at (p : Promise) (before after : List (List Frame)) (thread : List Frame) :
    Race.weight ⟨p, before ++ thread :: after⟩ =
      weigh before.flatten + (weigh thread + weigh after.flatten) := by
  rw [Race.weight, frames_at, weigh_append, weigh_append]

/-- Finishing something leaves less to do. -/
theorem weight_own (h : Step s e s') (hown : e.Own) : s'.weight + 1 = s.weight := by
  rcases h with ⟨before, after, hacts⟩
  rw [weight_at, weight_at]
  cases hacts with
  | wake | tell | confirm | call | leave =>
      simp only [weigh, Frame.weight, List.length_cons, List.length_nil]
      omega
  | _ => exact False.elim hown

/-- As long as something is left to do, something can be finished. -/
theorem exists_own (h : s.weight ≠ 0) : ∃ e s', Step s e s' ∧ e.Own := by
  rcases s with ⟨p, threads⟩
  -- Some thread is in the middle of something, and the innermost of it can be finished.
  have hsome : ∃ thread ∈ threads, thread ≠ [] := by
    by_contra hnone
    refine h ?_
    have hflat : threads.flatten = [] := by
      rw [List.flatten_eq_nil_iff]
      intro thread hthread
      exact by_contra fun hne => hnone ⟨thread, hthread, hne⟩
    rw [Race.weight, Race.frames, hflat]
    rfl
  rcases hsome with ⟨thread, hthread, hne⟩
  rcases List.append_of_mem hthread with ⟨before, after, rfl⟩
  cases thread with
  | nil => exact absurd rfl hne
  | cons frame rest =>
      cases frame with
      | code shielded =>
          exact ⟨.left false, _, .of before after (.leave fun h => absurd h Bool.false_ne_true),
            trivial⟩
      | owing l => exact ⟨_, _, .of before after .call, trivial⟩
      | telling wakers listeners =>
          cases wakers with
          | cons waker wakers => exact ⟨_, _, .of before after .wake, trivial⟩
          | nil =>
              cases listeners with
              | cons l listeners => exact ⟨_, _, .of before after .tell, trivial⟩
              | nil => exact ⟨_, _, .of before after .confirm, trivial⟩

/-- Where nothing is left to do, no call is under way. -/
theorem quiet_of_weight (h : s.weight = 0) : s.Quiet := by
  have hnone : s.frames = [] := by
    cases hframes : s.frames with
    | nil => rfl
    | cons frame rest =>
        rw [Race.weight, hframes, weigh] at h
        cases frame <;> simp only [Frame.weight] at h <;> omega
  rw [Race.Quiet, hnone]
  exact ⟨rfl, rfl⟩

theorem exists_finish (s : Race) :
    ∃ tr s', Runs s tr s' ∧ (∀ e ∈ tr, e.Own) ∧ s'.Quiet := by
  generalize hn : s.weight = n
  induction n generalizing s with
  | zero => exact ⟨[], s, .refl, fun _ he => absurd he List.not_mem_nil, quiet_of_weight hn⟩
  | succ n ih =>
      -- The induction is on the weight, since a step may open frames while it closes one.
      rcases exists_own (s := s) (by omega) with ⟨e, mid, hstep, hown⟩
      have hless := weight_own hstep hown
      rcases ih mid (by omega) with ⟨tr, s', hrun, howns, hquiet⟩
      refine ⟨[e] ++ tr, s', (Runs.refl.step hstep : Runs s ([] ++ [e]) mid).trans hrun, ?_, hquiet⟩
      intro e' he'
      rcases List.mem_cons.mp he' with rfl | he'
      · exact hown
      · exact howns e' he'

theorem weight_owns (h : Runs s tr s') (hown : ∀ e ∈ tr, e.Own) :
    tr.length + s'.weight = s.weight := by
  induction h with
  | refl => exact Nat.zero_add _
  | @step tr₀ mid s₀ e hrun hstep ih =>
      have hless := weight_own hstep (hown e (by simp))
      have hrest := ih fun e' he' => hown e' (List.mem_append_left _ he')
      rw [List.length_append, List.length_singleton]
      omega

/-! ### Every run -/

theorem mem_asleep {waker : WakerId} : waker ∈ asleep tr ↔ .polled waker none ∈ tr := by
  rw [asleep, List.mem_filterMap]
  constructor
  · rintro ⟨e, he, hwaker⟩
    split at hwaker
    · cases hwaker
      exact he
    · cases hwaker
  · exact fun h => ⟨_, h, rfl⟩

theorem mem_woken {waker : WakerId} (h : waker ∈ woken tr) : .woken waker ∈ tr := by
  rw [woken, List.mem_filterMap] at h
  rcases h with ⟨e, he, hwaker⟩
  split at hwaker
  · cases hwaker
    exact he
  · cases hwaker

/-- The promise has been kept if it has an outcome. -/
theorem Standing.kept_iff {fs : List Frame} (h : Standing tr p fs) :
    kept tr = [] ↔ p.outcome = none := by
  rcases h.once with ⟨hkept, hnone⟩ | ⟨outcome, hkept, hsome⟩
  · exact ⟨fun _ => hnone, fun _ => hkept⟩
  · rw [hkept, hsome]
    exact ⟨nofun, nofun⟩

/-- Each step of a run comes at its time. -/
theorem runs_timely {n : Nat} {before after : List Feat}
    (h : Runs (Race.start n) (before ++ e :: after) s) :
    (kept before = [] → ¬ e.Late) ∧ (kept before ≠ [] → ¬ e.Early) := by
  rcases h.step_at with ⟨mid, next, hbefore, ⟨threads, threads', hacts⟩, -⟩
  have hmid := hbefore.standing
  rw [ne_eq, hmid.kept_iff]
  rw [frames_at] at hmid
  exact hmid.timely hacts

/-- Who was sent to sleep is woken after that, and not before. -/
theorem woken_after {n : Nat} {before after : List Feat} {waker : WakerId}
    (h : Runs (Race.start n) (before ++ .polled waker none :: after) s)
    (hwoken : waker ∈ woken (before ++ .polled waker none :: after)) : .woken waker ∈ after := by
  rcases List.mem_append.mp (mem_woken hwoken) with hearly | hlater
  · -- Had it been woken before, the promise would have been kept before the poll.
    rcases List.append_of_mem hearly with ⟨first, last, rfl⟩
    have hkept : kept first ≠ [] := by
      intro hnone
      rw [List.append_assoc, List.cons_append] at h
      exact (runs_timely h).1 hnone trivial
    have hpolled := (runs_timely h).2
    rw [kept_append] at hpolled
    exact absurd trivial (hpolled fun hnone => hkept (List.append_eq_nil_iff.mp hnone).1)
  · rcases List.mem_cons.mp hlater with hsame | hafter
    · exact nomatch hsame
    · exact hafter

theorem Acts.answered {waker : WakerId}
    (h : Acts p thread (.polled waker (some outcome)) p' thread') : p'.outcome = some outcome := by
  generalize he : Feat.polled waker (some outcome) = e at h
  cases h with
  | @poll waker' _ _ =>
      cases houtcome : p.outcome with
      | none =>
          rcases poll_none houtcome waker' with ⟨wakers, hpoll, -⟩
          rw [hpoll] at he
          exact nomatch he
      | some other =>
          rw [poll_some houtcome] at he ⊢
          cases he
          exact houtcome
  | _ => exact nomatch he

/-- A poll is answered with the outcome. -/
theorem runs_answered {n : Nat} (h : Runs (Race.start n) tr s) {waker : WakerId}
    (hpolled : .polled waker (some outcome) ∈ tr) : kept tr = [outcome] := by
  rcases List.append_of_mem hpolled with ⟨before, after, rfl⟩
  rcases h.step_at with ⟨mid, next, hbefore, hstep, hafter⟩
  rcases hstep with ⟨threads, threads', hacts⟩
  have hsome := hafter.lasting hacts.answered
  rcases h.standing.once with ⟨-, hnone⟩ | ⟨other, hkept, hother⟩
  · exact nomatch hnone.symm.trans hsome
  · rw [hkept, Option.some.inj (hother.symm.trans hsome)]

/-- What holds of a promise that any number of threads race for. -/
theorem run_honoured {n : Nat} (h : Runs (Race.start n) tr s) : Honoured tr s := by
  have hstanding := h.standing
  constructor
  case once => exact hstanding.once
  case lasting => exact fun _ hsome _ _ hrun => hrun.lasting hsome
  case timely =>
    rintro before e after rfl
    exact runs_timely h
  case confirmed => exact hstanding.confirmed
  case called =>
    rw [Race.outstanding, hstanding.order, List.append_assoc (told tr) (toldLate tr),
      List.append_assoc (told tr) (_ ++ _)]
    refine List.Perm.append_left _ ?_
    -- Listeners that came late are called as they come, apart from the order of the others.
    exact (List.perm_append_comm_assoc _ _ _).trans (hstanding.late.append_left _)
  case order => exact ⟨_, hstanding.order.symm⟩
  case settled =>
    rintro ⟨htelling, howed⟩ hsome
    have hconfirmed := hstanding.confirmed
    have horder := hstanding.order
    have hlate := hstanding.late
    rcases hstanding.after hsome with ⟨hlisteners, hwakers⟩
    rcases hstanding.once with ⟨-, hnone⟩ | ⟨outcome, hkept, -⟩
    · exact absurd hnone hsome
    · rw [htelling, hkept] at hconfirmed
      rw [htelling, hlisteners, List.flatMap_nil, List.append_nil, List.append_nil] at horder
      rw [howed, List.append_nil] at hlate
      refine ⟨hconfirmed, horder.symm, hlate, ?_⟩
      rintro before waker after rfl
      refine woken_after h ?_
      have hmem := hstanding.asleep waker (mem_asleep.mpr (by simp))
      rw [htelling, hwakers] at hmem
      simpa using hmem
  case answered => exact fun _ _ hpolled => runs_answered h hpolled
  case finish => exact exists_finish s
  case bounded => exact fun _ _ hrun hown => weight_owns hrun hown

/-- A run of two threads. One registers a listener and polls; the other keeps the promise and
    calls the listener, which panics, while the first one comes with another listener. -/
def sampleFeats : List Feat :=
  [.registered (.custom 1), .polled 7 none, .kept (.ok ()), .woken 7, .left false,
    .told (.custom 1), .late (.custom 2), .left true, .confirmed, .toldLate (.custom 2)]

def sampleRace : Race :=
  { promise := { outcome := some (.ok ()) }
    threads := [[.code true, .code true], [.code true]] }

theorem sampleFeats_runs : Runs (Race.start 2) sampleFeats sampleRace := by
  have h : Runs (Race.start 2) [] (Race.start 2) := .refl
  have h := h.step (.of [] [[.code true]] (.register (l := .custom 1) rfl))
  have h := h.step (e := .polled 7 none) (.of [] [[.code true]] .poll)
  have h := h.step (e := .kept (.ok ())) (.of [[.code true]] [] (.keep rfl))
  have h := h.step (.of [[.code true]] [] .wake)
  have h := h.step (e := .left false) (.of [[.code true]] [] (.leave nofun))
  have h := h.step (.of [[.code true]] [] .tell)
  have h := h.step (.of [] [_] (.late (l := .custom 2) rfl))
  have h := h.step (e := .left true)
    (.of [[.owing (.custom 2), .code true]] [] (.leave fun _ => rfl))
  have h := h.step (.of [[.owing (.custom 2), .code true]] [] .confirm)
  exact h.step (.of [] [[.code true]] .call)

theorem run_honoured_sampleFeats :
    Runs (Race.start 2) sampleFeats sampleRace ∧ Honoured sampleFeats sampleRace :=
  ⟨sampleFeats_runs, run_honoured sampleFeats_runs⟩

/-! ### The library as a thread -/

/-- Steps of one thread while the others stand still. -/
inductive Plays (p : Promise) (thread : List Frame) : List Feat → Promise → List Frame → Prop
  | refl : Plays p thread [] p thread
  | step {tr : List Feat} {q p' : Promise} {mid thread' : List Frame} {e : Feat} :
    Plays p thread tr q mid → Acts q mid e p' thread' → Plays p thread (tr ++ [e]) p' thread'

namespace Plays

theorem trans {q : Promise} {mid : List Frame} (h : Plays p thread tr q mid)
    (h' : Plays q mid tr' p' thread') : Plays p thread (tr ++ tr') p' thread' := by
  induction h' with
  | refl => rwa [List.append_nil]
  | step _ hacts ih =>
      rw [← List.append_assoc]
      exact ih.step hacts

theorem single (h : Acts p thread e p' thread') : Plays p thread [e] p' thread' := refl.step h

/-- What one thread does is a run of a race in which the others do nothing. -/
theorem runs (h : Plays p thread tr p' thread') (before after : List (List Frame)) :
    Runs ⟨p, before ++ thread :: after⟩ tr ⟨p', before ++ thread' :: after⟩ := by
  induction h with
  | refl => exact .refl
  | step _ hacts ih => exact ih.step (.of before after hacts)

end Plays

section Library

variable {σ : Type} {w : World σ} {call : Caller σ} {f : PromiseId}

/-- A listener that is called does with the promise what code does that returns or panics. -/
def Heeds (call : Caller σ) (f : PromiseId) : Prop :=
  ∀ (l : Listener) (w : World σ), f < w.promises.length →
    f < (call (.listener l f) w).2.promises.length ∧
      ∀ rest, ∃ tr, Plays (w.promise f) (.code true :: rest) tr
        ((call (.listener l f) w).2.promise f) rest

theorem promise_setPromise (hf : f < w.promises.length) (p : Promise) :
    (w.setPromise f p).promise f = p := by
  rw [World.promise, World.setPromise, List.getElem?_set_self hf, Option.getD_some]

/-- Sleepers are woken one after the other. -/
theorem plays_wake (p : Promise) (wakers : List WakerId) (listeners : List Listener)
    (rest : List Frame) :
    ∃ tr, Plays p (.telling wakers listeners :: rest) tr p (.telling [] listeners :: rest) := by
  induction wakers with
  | nil => exact ⟨[], .refl⟩
  | cons waker wakers ih =>
      rcases ih with ⟨tr, hrest⟩
      have hwake : Plays p (.telling (waker :: wakers) listeners :: rest)
          ([.woken waker] ++ [.left false]) p (.telling wakers listeners :: rest) :=
        (Plays.single .wake).step (.leave nofun)
      exact ⟨_, hwake.trans hrest⟩

variable [Journal σ]

/-- A panic of a listener does not matter to any promise. -/
theorem promises_tell (w : World σ) (call : Caller σ) (l : Listener) (f : PromiseId) :
    (w.tell call l f).promises = (call (.listener l f) w).2.promises := by
  rw [World.tell]
  split
  · next heq => rw [heq]
  · next heq =>
      rw [heq]
      rfl

theorem promise_tell (w : World σ) (call : Caller σ) (l : Listener) (f : PromiseId) :
    (w.tell call l f).promise f = (call (.listener l f) w).2.promise f := by
  rw [World.promise, promises_tell, World.promise]

/-- Listeners are called one after the other. -/
theorem plays_tell (hcall : Heeds call f) (listeners : List Listener)
    (hf : f < w.promises.length) (rest : List Frame) :
    f < (listeners.foldl (fun w l => w.tell call l f) w).promises.length ∧
      ∃ tr, Plays (w.promise f) (.telling [] listeners :: rest) tr
        ((listeners.foldl (fun w l => w.tell call l f) w).promise f)
        (.telling [] [] :: rest) := by
  induction listeners generalizing w with
  | nil => exact ⟨hf, [], .refl⟩
  | cons l listeners ih =>
      rcases hcall l w hf with ⟨hf', hplays⟩
      rw [← promises_tell] at hf'
      rcases hplays (.telling [] listeners :: rest) with ⟨tr, htr⟩
      rw [← promise_tell] at htr
      -- A listener may settle the promise, so the rest is told in the world that it leaves.
      rcases ih hf' with ⟨hlast, tr', htr'⟩
      exact ⟨hlast, _, ((Plays.single .tell).trans htr).trans htr'⟩

/-- Keeping a promise in one go is one of the ways in which a thread keeps it. -/
theorem complete_plays (hcall : Heeds call f) (hf : f < w.promises.length) (outcome : Outcome)
    (shielded : Bool) (rest : List Frame) :
    ∃ tr, Plays (w.promise f) (.code shielded :: rest) tr
        ((w.complete call f outcome).2.promise f) (.code shielded :: rest) ∧
      if (w.complete call f outcome).1 then ∃ mid, tr = [.kept outcome] ++ mid ++ [.confirmed]
      else tr = [.refused outcome] := by
  rw [World.complete]
  cases hkeep : (w.promise f).keep outcome with
  | none => exact ⟨[.refused outcome], .single (.refuse hkeep), rfl⟩
  | some result =>
      rcases result with ⟨wakers, listeners, p⟩
      have hset : f < (w.setPromise f p).promises.length := by
        rwa [World.setPromise, List.length_set]
      rcases plays_wake p wakers listeners (.code shielded :: rest) with ⟨tr, htr⟩
      rcases plays_tell (w := { w.setPromise f p with woken := wakers.reverse ++ w.woken })
        hcall listeners hset (.code shielded :: rest) with ⟨-, tr', htr'⟩
      have hpromise : ({ w.setPromise f p with
          woken := wakers.reverse ++ w.woken } : World σ).promise f = p := promise_setPromise hf p
      rw [hpromise] at htr'
      have hall := (((Plays.single (.keep hkeep)).trans htr).trans htr').step .confirm
      exact ⟨_, hall, tr ++ tr', by rw [List.append_assoc [_] tr]⟩

/-- Adding a listener in one go is one of the ways in which a thread adds it. -/
theorem listen_plays (hcall : Heeds call f) (hf : f < w.promises.length) (l : Listener)
    (shielded : Bool) (rest : List Frame) :
    ∃ tr, Plays (w.promise f) (.code shielded :: rest) tr ((w.listen call f l).promise f)
      (.code shielded :: rest) := by
  rw [World.listen]
  cases hlisten : (w.promise f).listen l with
  | some p =>
      have hpromise : (w.setPromise f p).promise f = p := promise_setPromise hf p
      refine ⟨[.registered l], .single ?_⟩
      rw [hpromise]
      exact .register hlisten
  | none =>
      rcases (hcall l w hf).2 (.code shielded :: rest) with ⟨tr, htr⟩
      rw [← promise_tell] at htr
      exact ⟨_, ((Plays.single (.late hlisten)).step .call).trans htr⟩

end Library

end Conduit.Promise
