import Conduit.Promise
import Mathlib.Data.List.Basic

/-!
# Racing for a Promise

Any number of threads use one promise at the same time. What is done under its lock is one
step: to keep it, to register a listener, to poll it. What follows outside the lock is done
one thing at a time, and other threads may come in between: each sleeper is woken, and each
listener is called, by a step of its own. What is called is code again, which may use the
promise as it likes before it returns; a thread is therefore a stack of things that it is
in the middle of.

Code may end in a panic. A listener is called with a shield around it, so that a panic gets
no further than the call. The call to a waker is not shielded, and a waker is taken not to
panic.

No thread has to go on. So what a run promises is said of any moment in it: how often and in
what order listeners have been called, and what is still to be done by threads that are in
the middle of something. Steps that finish what is under way can always be taken, and each of
them leaves less to do.

## Main definitions

* `Frame`: What a thread is in the middle of.
* `Feat`: What a step does.
* `Acts`, `Race.Step`, `Race.Runs`: A step of one thread, of a race, and many of them.
* `Standing`: How things stand after some steps.

## Theorems

* `kept_append`, `confirmations_append`: What more steps add to a ledger.
* `filterMap_skip`, `filterMap_record`, `confirmations_skip`, `kept_skip`,
  `registered_skip`, `late_skip`, `told_skip`, `toldLate_skip`, `asleep_skip`, `woken_skip`:
  What one more step adds.
* `telling_append`, `telling_code`, `telling_owing`, `telling_telling`, `owed_append`,
  `owed_code`, `owed_owing`, `owed_telling`, `frames_at`: What one more frame adds.
* `poll_none`, `poll_some`, `outcome_of_keep`, `outcome_of_listen`, `keep_eq_some`,
  `listen_eq_some`: A promise that is used.
* `Standing.start`: How they stand at first.
* `Standing.idle`, `Standing.alone`, `Standing.settled_of_owed`: Who can be under way.
* `Standing.of_frames`, `Standing.acts_silent`, `Standing.acts_keep`,
  `Standing.acts_register`, `Standing.acts_late`, `Standing.acts_sleep`,
  `Standing.acts_wake`, `Standing.acts_tell`, `Standing.acts_confirm`,
  `Standing.acts_call`, `Standing.acts`: What each step keeps.
* `Standing.timely`: When a step can come.
-/

namespace Conduit.Promise

/-- What a thread is in the middle of. -/
inductive Frame where
  /-- Code that may use the promise. It may end in a panic if the call to it is shielded. -/
  | code (shielded : Bool)
  /-- It has kept the promise, and has these to wake and to call. -/
  | telling (wakers : List WakerId) (listeners : List Listener)
  /-- It came too late to register a listener, and has to call it. -/
  | owing (l : Listener)
  deriving DecidableEq, Repr, Inhabited

/-- What a step does. -/
inductive Feat where
  | kept (outcome : Outcome)
  /-- An attempt to keep the promise answers false. -/
  | refused (outcome : Outcome)
  /-- An attempt to keep the promise answers true. -/
  | confirmed
  | registered (l : Listener)
  /-- A listener comes after the promise was kept. -/
  | late (l : Listener)
  /-- A listener is called that was registered. -/
  | told (l : Listener)
  /-- A listener is called that came late. -/
  | toldLate (l : Listener)
  | polled (waker : WakerId) (answer : Option Outcome)
  | woken (waker : WakerId)
  /-- Code ends, by returning or in a panic. -/
  | left (panicked : Bool)

/-- A promise, and the threads that use it. -/
structure Race where
  promise : Promise := {}
  threads : List (List Frame)

/-- A step of a thread: the promise and the thread before it, and both after it. -/
inductive Acts : Promise → List Frame → Feat → Promise → List Frame → Prop
  | keep {p p' : Promise} {outcome wakers listeners shielded rest} :
    p.keep outcome = some (wakers, listeners, p') →
    Acts p (.code shielded :: rest) (.kept outcome) p'
      (.telling wakers listeners :: .code shielded :: rest)
  | refuse {p : Promise} {outcome shielded rest} : p.keep outcome = none →
    Acts p (.code shielded :: rest) (.refused outcome) p (.code shielded :: rest)
  | register {p p' : Promise} {l shielded rest} : p.listen l = some p' →
    Acts p (.code shielded :: rest) (.registered l) p' (.code shielded :: rest)
  | late {p : Promise} {l shielded rest} : p.listen l = none →
    Acts p (.code shielded :: rest) (.late l) p (.owing l :: .code shielded :: rest)
  | poll {p : Promise} {waker shielded rest} :
    Acts p (.code shielded :: rest) (.polled waker (p.poll waker).1) (p.poll waker).2
      (.code shielded :: rest)
  | wake {p : Promise} {waker wakers listeners rest} :
    Acts p (.telling (waker :: wakers) listeners :: rest) (.woken waker) p
      (.code false :: .telling wakers listeners :: rest)
  | tell {p : Promise} {l listeners rest} :
    Acts p (.telling [] (l :: listeners) :: rest) (.told l) p
      (.code true :: .telling [] listeners :: rest)
  | confirm {p : Promise} {rest} : Acts p (.telling [] [] :: rest) .confirmed p rest
  | call {p : Promise} {l rest} : Acts p (.owing l :: rest) (.toldLate l) p (.code true :: rest)
  | leave {p : Promise} {shielded panicked rest} : (panicked = true → shielded = true) →
    Acts p (.code shielded :: rest) (.left panicked) p rest

namespace Race

/-- Any number of threads with code of their own, and a promise that nobody has used. -/
def start (n : Nat) : Race := { threads := List.replicate n [.code true] }

/-- A step of any of the threads. -/
inductive Step : Race → Feat → Race → Prop
  | of {p p' : Promise} {thread thread' : List Frame} {e : Feat}
    (before after : List (List Frame)) :
    Acts p thread e p' thread' →
    Step ⟨p, before ++ thread :: after⟩ e ⟨p', before ++ thread' :: after⟩

/-- Any number of steps. -/
inductive Runs (s : Race) : List Feat → Race → Prop
  | refl : Runs s [] s
  | step {tr : List Feat} {mid s' : Race} {e : Feat} :
    Runs s tr mid → Step mid e s' → Runs s (tr ++ [e]) s'

/-- All that threads are in the middle of. -/
def frames (s : Race) : List Frame := s.threads.flatten

end Race

/-! ### What has been done -/

/-- The outcomes with which the promise was kept. -/
def kept (tr : List Feat) : List Outcome :=
  tr.filterMap fun
    | .kept outcome => some outcome
    | _ => none

/-- How many attempts have answered true. -/
def confirmations (tr : List Feat) : Nat :=
  tr.countP fun
    | .confirmed => true
    | _ => false

/-- The listeners that were registered. -/
def registered (tr : List Feat) : List Listener :=
  tr.filterMap fun
    | .registered l => some l
    | _ => none

/-- The listeners that came late. -/
def late (tr : List Feat) : List Listener :=
  tr.filterMap fun
    | .late l => some l
    | _ => none

/-- The listeners that were called of those that were registered. -/
def told (tr : List Feat) : List Listener :=
  tr.filterMap fun
    | .told l => some l
    | _ => none

/-- The listeners that were called of those that came late. -/
def toldLate (tr : List Feat) : List Listener :=
  tr.filterMap fun
    | .toldLate l => some l
    | _ => none

/-- The tasks that polled and were sent to sleep. -/
def asleep (tr : List Feat) : List WakerId :=
  tr.filterMap fun
    | .polled waker none => some waker
    | _ => none

/-- The tasks that were woken. -/
def woken (tr : List Feat) : List WakerId :=
  tr.filterMap fun
    | .woken waker => some waker
    | _ => none

/-- A step that is taken only before the promise is kept, or in keeping it. -/
def Feat.Early : Feat → Prop
  | .kept _ | .registered _ | .polled _ none => True
  | _ => False

/-- A step that is taken only when the promise has been kept. -/
def Feat.Late : Feat → Prop
  | .refused _ | .confirmed | .late _ | .told _ | .toldLate _ | .polled _ (some _) | .woken _ =>
    True
  | _ => False

/-- A step that is not recorded. -/
def Feat.Silent : Feat → Prop
  | .refused _ | .polled _ (some _) | .left _ => True
  | _ => False

/-! ### What is under way -/

/-- What is still to be done by those who have kept the promise. -/
def telling (fs : List Frame) : List (List WakerId × List Listener) :=
  fs.filterMap fun
    | .telling wakers listeners => some (wakers, listeners)
    | _ => none

/-- The late listeners that are still to be called. -/
def owed (fs : List Frame) : List Listener :=
  fs.filterMap fun
    | .owing l => some l
    | _ => none

/-! ### What a run keeps -/

/-- How things stand after some steps, with what threads are in the middle of. -/
structure Standing (tr : List Feat) (p : Promise) (fs : List Frame) : Prop where
  /-- The promise was not kept, or once. -/
  once : (kept tr = [] ∧ p.outcome = none) ∨
    ∃ outcome, kept tr = [outcome] ∧ p.outcome = some outcome
  /-- Whoever has kept it has been told so, or is telling others. -/
  confirmed : confirmations tr + (telling fs).length = (kept tr).length
  /-- Those who were registered have been told, or are still to be told, in that order. -/
  order : registered tr = told tr ++ (p.listeners ++ (telling fs).flatMap (·.2))
  /-- Those who went to sleep have been woken, or are still to be woken. -/
  asleep : ∀ waker ∈ asleep tr, waker ∈ woken tr ∨ waker ∈ p.wakers ∨
    ∃ t ∈ telling fs, waker ∈ t.1
  /-- Those who came late have been told, or are still to be told. -/
  late : (toldLate tr ++ owed fs).Perm (late tr)
  /-- Until it is kept, nobody is told anything. -/
  before : p.outcome = none → told tr = [] ∧ Promise.late tr = [] ∧ woken tr = []
  /-- Once it is kept, nobody waits. -/
  after : p.outcome ≠ none → p.listeners = [] ∧ p.wakers = []

variable {tr : List Feat} {s s' : Race} {e : Feat} {outcome : Outcome} {fs gs : List Frame}

/-! ### What one more step adds -/

theorem kept_append (tr tr' : List Feat) : kept (tr ++ tr') = kept tr ++ kept tr' :=
  List.filterMap_append

theorem confirmations_append (tr tr' : List Feat) :
    confirmations (tr ++ tr') = confirmations tr + confirmations tr' :=
  List.countP_append

theorem filterMap_skip {α : Type} {f : Feat → Option α} (he : [e].filterMap f = []) :
    (tr ++ [e]).filterMap f = tr.filterMap f := by
  rw [List.filterMap_append, he, List.append_nil]

theorem filterMap_record {α : Type} {f : Feat → Option α} {a : α} (he : f e = some a) :
    (tr ++ [e]).filterMap f = tr.filterMap f ++ [a] := by
  rw [List.filterMap_append, List.filterMap_cons_some he, List.filterMap_nil]

theorem confirmations_skip (he : confirmations [e] = 0) :
    confirmations (tr ++ [e]) = confirmations tr := by
  rw [confirmations_append, he, Nat.add_zero]

theorem kept_skip (he : kept [e] = []) : kept (tr ++ [e]) = kept tr := filterMap_skip he

theorem registered_skip (he : registered [e] = []) : registered (tr ++ [e]) = registered tr :=
  filterMap_skip he

theorem late_skip (he : late [e] = []) : late (tr ++ [e]) = late tr := filterMap_skip he

theorem told_skip (he : told [e] = []) : told (tr ++ [e]) = told tr := filterMap_skip he

theorem toldLate_skip (he : toldLate [e] = []) : toldLate (tr ++ [e]) = toldLate tr :=
  filterMap_skip he

theorem asleep_skip (he : asleep [e] = []) : asleep (tr ++ [e]) = asleep tr := filterMap_skip he

theorem woken_skip (he : woken [e] = []) : woken (tr ++ [e]) = woken tr := filterMap_skip he

/-! ### What one more frame adds -/

@[simp] theorem telling_append : telling (fs ++ gs) = telling fs ++ telling gs :=
  List.filterMap_append

@[simp] theorem telling_code (shielded : Bool) : telling (.code shielded :: fs) = telling fs := rfl

@[simp] theorem telling_owing (l : Listener) : telling (.owing l :: fs) = telling fs := rfl

@[simp] theorem telling_telling (wakers : List WakerId) (listeners : List Listener) :
    telling (.telling wakers listeners :: fs) = (wakers, listeners) :: telling fs := rfl

@[simp] theorem owed_append : owed (fs ++ gs) = owed fs ++ owed gs := List.filterMap_append

@[simp] theorem owed_code (shielded : Bool) : owed (.code shielded :: fs) = owed fs := rfl

@[simp] theorem owed_owing (l : Listener) : owed (.owing l :: fs) = l :: owed fs := rfl

@[simp] theorem owed_telling (wakers : List WakerId) (listeners : List Listener) :
    owed (.telling wakers listeners :: fs) = owed fs := rfl

/-- The frames of a race are those of one thread, among others. -/
@[simp] theorem frames_at (p : Promise) (before after : List (List Frame)) (thread : List Frame) :
    Race.frames ⟨p, before ++ thread :: after⟩ = before.flatten ++ (thread ++ after.flatten) := by
  rw [Race.frames, List.flatten_append, List.flatten_cons]

/-- A poll before the promise is kept sends the task to sleep. -/
theorem poll_none {p : Promise} (h : p.outcome = none) (waker : WakerId) :
    ∃ wakers, p.poll waker = (none, { p with wakers := wakers }) ∧ waker ∈ wakers ∧
      ∀ other ∈ p.wakers, other ∈ wakers := by
  rcases p with ⟨outcome, listeners, wakers⟩
  cases h
  by_cases hmem : waker ∈ wakers
  · exact ⟨wakers, if_pos hmem, hmem, fun _ hother => hother⟩
  · exact ⟨wakers ++ [waker], if_neg hmem,
      List.mem_append_right _ (List.mem_singleton_self _),
      fun _ hother => List.mem_append_left _ hother⟩

theorem poll_some {p : Promise} (h : p.outcome = some outcome) (waker : WakerId) :
    p.poll waker = (some outcome, p) := by
  rw [poll, h]

namespace Standing

variable {p p' : Promise}

theorem start (n : Nat) : Standing [] {} (Race.start n).frames := by
  -- At first all threads are in code, which tells nobody and owes nothing.
  have hcode : ∀ f ∈ (Race.start n).frames, f = .code true := by
    intro f hf
    rcases List.mem_flatten.mp hf with ⟨thread, hthread, hmem⟩
    rw [List.eq_of_mem_replicate hthread] at hmem
    exact List.mem_singleton.mp hmem
  have htelling : telling (Race.start n).frames = [] :=
    List.filterMap_eq_nil_iff.mpr fun f hf => hcode f hf ▸ rfl
  have howed : owed (Race.start n).frames = [] :=
    List.filterMap_eq_nil_iff.mpr fun f hf => hcode f hf ▸ rfl
  constructor
  case once => exact Or.inl ⟨rfl, rfl⟩
  case confirmed => rw [htelling]; rfl
  case order => rw [htelling]; rfl
  case asleep => exact fun _ h => absurd h List.not_mem_nil
  case late => rw [howed]; exact List.Perm.nil
  case before => exact fun _ => ⟨rfl, rfl, rfl⟩
  case after => exact fun h => absurd rfl h

/-- While the promise is not kept, nobody is telling or owes anything. -/
theorem idle (h : Standing tr p fs) (hnone : p.outcome = none) :
    kept tr = [] ∧ confirmations tr = 0 ∧ telling fs = [] ∧ owed fs = [] := by
  have hkept : kept tr = [] := by
    rcases h.once with ⟨hkept, -⟩ | ⟨outcome, -, hsome⟩
    · exact hkept
    · exact nomatch hnone.symm.trans hsome
  have hlate := h.late
  have hconfirmed := h.confirmed
  rw [(h.before hnone).2.1, List.perm_nil, List.append_eq_nil_iff] at hlate
  rw [hkept, List.length_nil] at hconfirmed
  exact ⟨hkept, by omega, List.eq_nil_of_length_eq_zero (by omega), hlate.2⟩

/-- Whoever is telling is the only one. -/
theorem alone (h : Standing tr p fs) {ts ts' : List (List WakerId × List Listener)}
    {t : List WakerId × List Listener} (htelling : telling fs = ts ++ t :: ts') :
    ts = [] ∧ ts' = [] ∧ confirmations tr = 0 ∧ p.outcome ≠ none := by
  have hconfirmed := h.confirmed
  rw [htelling, List.length_append, List.length_cons] at hconfirmed
  rcases h.once with ⟨hkept, -⟩ | ⟨outcome, hkept, hsome⟩
  · rw [hkept, List.length_nil] at hconfirmed
    omega
  · rw [hkept, List.length_singleton] at hconfirmed
    refine ⟨List.eq_nil_of_length_eq_zero (by omega), List.eq_nil_of_length_eq_zero (by omega),
      by omega, fun hnone => nomatch hnone.symm.trans hsome⟩

/-- The promise has been kept where a late listener is still to be called. -/
theorem settled_of_owed (h : Standing tr p fs) {l : Listener} (hl : l ∈ owed fs) :
    p.outcome ≠ none := by
  intro hnone
  rw [(h.idle hnone).2.2.2] at hl
  exact List.not_mem_nil hl

theorem outcome_of_keep {outcome : Outcome} (h : p.keep outcome = none) : p.outcome ≠ none := by
  intro hnone
  rw [keep, hnone] at h
  exact nomatch h

theorem outcome_of_listen {l : Listener} (h : p.listen l = none) : p.outcome ≠ none := by
  intro hnone
  rw [listen, hnone] at h
  exact nomatch h

theorem keep_eq_some {outcome : Outcome} {wakers : List WakerId} {listeners : List Listener}
    (h : p.keep outcome = some (wakers, listeners, p')) :
    p.outcome = none ∧ wakers = p.wakers ∧ listeners = p.listeners ∧
      p' = { outcome := some outcome } := by
  cases houtcome : p.outcome with
  | none =>
      rw [keep, houtcome] at h
      cases h
      exact ⟨rfl, rfl, rfl, rfl⟩
  | some other =>
      rw [keep, houtcome] at h
      exact nomatch h

theorem listen_eq_some {l : Listener} (h : p.listen l = some p') :
    p.outcome = none ∧ p' = { p with listeners := p.listeners ++ [l] } := by
  cases houtcome : p.outcome with
  | none =>
      rw [listen, houtcome] at h
      cases h
      exact ⟨rfl, rfl⟩
  | some other =>
      rw [listen, houtcome] at h
      exact nomatch h

/-! ### What each step keeps

A step is recorded in one ledger at most. All others are skipped, and what is left to say of
a step is what it does to that one and to the things under way.
-/

/-- Of what threads are in the middle of, only this matters. -/
theorem of_frames (h : Standing tr p fs) (htelling : telling gs = telling fs)
    (howed : owed gs = owed fs) : Standing tr p gs := by
  refine ⟨h.once, ?_, ?_, ?_, ?_, h.before, h.after⟩
  · rw [htelling]
    exact h.confirmed
  · rw [htelling]
    exact h.order
  · rw [htelling]
    exact h.asleep
  · rw [howed]
    exact h.late

theorem acts_silent (h : Standing tr p fs) (he : e.Silent) : Standing (tr ++ [e]) p fs := by
  have ⟨honce, hconfirmed, horder, hasleep, hlate, hbefore, hafter⟩ := h
  -- No ledger records a silent step.
  have hskip : kept [e] = [] ∧ confirmations [e] = 0 ∧ registered [e] = [] ∧ told [e] = [] ∧
      Promise.asleep [e] = [] ∧ woken [e] = [] ∧ Promise.late [e] = [] ∧ toldLate [e] = [] := by
    cases e with
    | refused _ | left _ => exact ⟨rfl, rfl, rfl, rfl, rfl, rfl, rfl, rfl⟩
    | polled _ answer =>
        cases answer with
        | none => exact he.elim
        | some _ => exact ⟨rfl, rfl, rfl, rfl, rfl, rfl, rfl, rfl⟩
    | _ => exact he.elim
  rcases hskip with ⟨hkept, hconfirms, hregistered, htold, hslept, hwoken, hcame, hcalled⟩
  refine ⟨?_, ?_, ?_, ?_, ?_, ?_, hafter⟩
  · rwa [kept_skip hkept]
  · rwa [confirmations_skip hconfirms, kept_skip hkept]
  · rwa [registered_skip hregistered, told_skip htold]
  · rwa [asleep_skip hslept, woken_skip hwoken]
  · rwa [toldLate_skip hcalled, late_skip hcame]
  · rwa [told_skip htold, late_skip hcame, woken_skip hwoken]

/-- Whoever keeps the promise takes over all that wait. -/
theorem acts_keep {shielded : Bool} (h : Standing tr p (fs ++ .code shielded :: gs))
    (hnone : p.outcome = none) : Standing (tr ++ [.kept outcome]) { outcome := some outcome }
      (fs ++ .telling p.wakers p.listeners :: .code shielded :: gs) := by
  have ⟨_, _, horder, hasleep, hlate, _, _⟩ := h
  -- Nobody else is telling, so the one who keeps the promise has all to itself.
  rcases h.idle hnone with ⟨hkept, hconfirms, htelling, -⟩
  have hkept' : kept (tr ++ [.kept outcome]) = [outcome] := by
    rw [kept_append, hkept]
    rfl
  rw [telling_append, telling_code, List.append_eq_nil_iff] at htelling
  have htelling' : telling (fs ++ .telling p.wakers p.listeners :: .code shielded :: gs) =
      [(p.wakers, p.listeners)] := by
    rw [telling_append, telling_telling, telling_code, htelling.1, htelling.2]
    rfl
  refine ⟨Or.inr ⟨outcome, hkept', rfl⟩, ?_, ?_, ?_, ?_, nofun, fun _ => ⟨rfl, rfl⟩⟩
  · rw [confirmations_skip rfl, hconfirms, hkept', htelling']
    rfl
  · rw [registered_skip rfl, told_skip rfl, htelling']
    simpa [htelling] using horder
  · rw [asleep_skip rfl, woken_skip rfl, htelling']
    simpa [htelling] using hasleep
  · rwa [toldLate_skip rfl, late_skip rfl, owed_append, owed_telling, ← owed_append]

theorem acts_register (h : Standing tr p fs) (hnone : p.outcome = none) (l : Listener) :
    Standing (tr ++ [.registered l]) { p with listeners := p.listeners ++ [l] } fs := by
  have ⟨honce, hconfirmed, horder, hasleep, hlate, hbefore, _⟩ := h
  rcases h.idle hnone with ⟨-, -, htelling, -⟩
  have hregistered : registered (tr ++ [.registered l]) = registered tr ++ [l] :=
    filterMap_record rfl
  refine ⟨?_, ?_, ?_, ?_, ?_, ?_, fun hsome => absurd hnone hsome⟩
  · rwa [kept_skip rfl]
  · rwa [confirmations_skip rfl, kept_skip rfl]
  · rw [hregistered, told_skip rfl, horder, htelling]
    simp
  · rwa [asleep_skip rfl, woken_skip rfl]
  · rwa [toldLate_skip rfl, late_skip rfl]
  · rwa [told_skip rfl, late_skip rfl, woken_skip rfl]

theorem acts_late {shielded : Bool} (h : Standing tr p (fs ++ .code shielded :: gs))
    (hsome : p.outcome ≠ none) (l : Listener) :
    Standing (tr ++ [.late l]) p (fs ++ .owing l :: .code shielded :: gs) := by
  have ⟨honce, hconfirmed, horder, hasleep, hlate, _, hafter⟩ := h
  have hcame : Promise.late (tr ++ [.late l]) = Promise.late tr ++ [l] := filterMap_record rfl
  have htelling : telling (fs ++ .owing l :: .code shielded :: gs) =
      telling (fs ++ .code shielded :: gs) := by
    rw [telling_append, telling_owing, telling_append]
  refine ⟨?_, ?_, ?_, ?_, ?_, fun hnone => absurd hnone hsome, hafter⟩
  · rwa [kept_skip rfl]
  · rwa [confirmations_skip rfl, kept_skip rfl, htelling]
  · rwa [registered_skip rfl, told_skip rfl, htelling]
  · rwa [asleep_skip rfl, woken_skip rfl, htelling]
  · rw [toldLate_skip rfl, hcame, owed_append, owed_owing, ← List.append_assoc]
    rw [owed_append, ← List.append_assoc] at hlate
    -- The order of late listeners is that of their threads, hence a permutation.
    have hmiddle := List.perm_middle.trans (hlate.cons l)
    exact hmiddle.trans (List.perm_append_singleton l _).symm

theorem acts_sleep (h : Standing tr p fs) (hnone : p.outcome = none) (waker : WakerId)
    {wakers : List WakerId} (hmem : waker ∈ wakers) (hsub : ∀ other ∈ p.wakers, other ∈ wakers) :
    Standing (tr ++ [.polled waker none]) { p with wakers := wakers } fs := by
  have ⟨honce, hconfirmed, horder, hasleep, hlate, hbefore, _⟩ := h
  have hslept : Promise.asleep (tr ++ [.polled waker none]) = Promise.asleep tr ++ [waker] :=
    filterMap_record rfl
  refine ⟨?_, ?_, ?_, ?_, ?_, ?_, fun hsome => absurd hnone hsome⟩
  · rwa [kept_skip rfl]
  · rwa [confirmations_skip rfl, kept_skip rfl]
  · rwa [registered_skip rfl, told_skip rfl]
  · intro other hother
    rw [hslept, List.mem_append, List.mem_singleton] at hother
    rw [woken_skip rfl]
    rcases hother with hold | rfl
    · exact (hasleep other hold).imp_right (Or.imp_left (hsub other))
    · exact Or.inr (Or.inl hmem)
  · rwa [toldLate_skip rfl, late_skip rfl]
  · rwa [told_skip rfl, late_skip rfl, woken_skip rfl]

/-- Whoever is telling goes on to the next sleeper. -/
theorem acts_wake {waker : WakerId} {wakers : List WakerId} {listeners : List Listener}
    (h : Standing tr p (fs ++ .telling (waker :: wakers) listeners :: gs)) :
    Standing (tr ++ [.woken waker]) p
      (fs ++ .code false :: .telling wakers listeners :: gs) := by
  have ⟨honce, hconfirmed, horder, hasleep, hlate, _, hafter⟩ := h
  have htelling : telling (fs ++ .telling (waker :: wakers) listeners :: gs) =
      telling fs ++ (waker :: wakers, listeners) :: telling gs := by
    rw [telling_append, telling_telling]
  -- Before and after this frame nobody is telling, so the ledger knows what is left.
  rcases h.alone htelling with ⟨hfs, hgs, -, hsome⟩
  rw [hfs, hgs, List.nil_append] at htelling
  have htelling' : telling (fs ++ .code false :: .telling wakers listeners :: gs) =
      [(wakers, listeners)] := by
    rw [telling_append, telling_code, telling_telling, hfs, hgs]
    rfl
  have hwoken : woken (tr ++ [.woken waker]) = woken tr ++ [waker] := filterMap_record rfl
  rw [htelling] at hconfirmed horder hasleep
  refine ⟨?_, ?_, ?_, ?_, ?_, fun hnone => absurd hnone hsome, hafter⟩
  · rwa [kept_skip rfl]
  · rwa [confirmations_skip rfl, kept_skip rfl, htelling']
  · rwa [registered_skip rfl, told_skip rfl, htelling']
  · intro other hother
    rw [asleep_skip rfl] at hother
    rw [hwoken, List.mem_append, List.mem_singleton, htelling']
    -- A sleeper has been woken, still waits, or is on the list that has just become shorter.
    rcases hasleep other hother with hwoken | hwaits | ⟨t, ht, hmem⟩
    · exact Or.inl (Or.inl hwoken)
    · exact Or.inr (Or.inl hwaits)
    · rw [List.mem_singleton] at ht
      subst ht
      rcases List.mem_cons.mp hmem with rfl | hmem
      · exact Or.inl (Or.inr rfl)
      · exact Or.inr (Or.inr ⟨_, List.mem_singleton_self _, hmem⟩)
  · rw [toldLate_skip rfl, late_skip rfl]
    simpa using hlate

/-- Whoever is telling goes on to the next listener. -/
theorem acts_tell {l : Listener} {listeners : List Listener}
    (h : Standing tr p (fs ++ .telling [] (l :: listeners) :: gs)) :
    Standing (tr ++ [.told l]) p (fs ++ .code true :: .telling [] listeners :: gs) := by
  have ⟨honce, hconfirmed, horder, hasleep, hlate, _, hafter⟩ := h
  have htelling : telling (fs ++ .telling [] (l :: listeners) :: gs) =
      telling fs ++ ([], l :: listeners) :: telling gs := by
    rw [telling_append, telling_telling]
  rcases h.alone htelling with ⟨hfs, hgs, -, hsome⟩
  rw [hfs, hgs, List.nil_append] at htelling
  have htelling' : telling (fs ++ .code true :: .telling [] listeners :: gs) =
      [([], listeners)] := by
    rw [telling_append, telling_code, telling_telling, hfs, hgs]
    rfl
  -- The listener moves from those that are to be told to those that have been.
  have htold : told (tr ++ [.told l]) = told tr ++ [l] := filterMap_record rfl
  rw [htelling] at hconfirmed horder hasleep
  refine ⟨?_, ?_, ?_, ?_, ?_, fun hnone => absurd hnone hsome, hafter⟩
  · rwa [kept_skip rfl]
  · rwa [confirmations_skip rfl, kept_skip rfl, htelling']
  · rw [registered_skip rfl, htold, htelling', horder, (hafter hsome).1]
    simp
  · rw [asleep_skip rfl, woken_skip rfl, htelling']
    simpa using hasleep
  · rw [toldLate_skip rfl, late_skip rfl]
    simpa using hlate

/-- Whoever has told all is told that it has kept the promise. -/
theorem acts_confirm (h : Standing tr p (fs ++ .telling [] [] :: gs)) :
    Standing (tr ++ [.confirmed]) p (fs ++ gs) := by
  have ⟨honce, hconfirmed, horder, hasleep, hlate, _, hafter⟩ := h
  have htelling : telling (fs ++ .telling [] [] :: gs) =
      telling fs ++ ([], []) :: telling gs := by
    rw [telling_append, telling_telling]
  rcases h.alone htelling with ⟨hfs, hgs, hnew, hsome⟩
  rw [hfs, hgs, List.nil_append] at htelling
  have htelling' : telling (fs ++ gs) = [] := by
    rw [telling_append, hfs, hgs]
    rfl
  rw [htelling] at hconfirmed horder hasleep
  refine ⟨?_, ?_, ?_, ?_, ?_, fun hnone => absurd hnone hsome, hafter⟩
  · rwa [kept_skip rfl]
  · rw [confirmations_append, kept_skip rfl, htelling', ← hconfirmed]
    rfl
  · rw [registered_skip rfl, told_skip rfl, htelling']
    simpa using horder
  · rw [asleep_skip rfl, woken_skip rfl, htelling']
    simpa using hasleep
  · rw [toldLate_skip rfl, late_skip rfl]
    simpa using hlate

theorem acts_call {l : Listener} (h : Standing tr p (fs ++ .owing l :: gs)) :
    Standing (tr ++ [.toldLate l]) p (fs ++ .code true :: gs) := by
  have ⟨honce, hconfirmed, horder, hasleep, hlate, _, hafter⟩ := h
  have hsome : p.outcome ≠ none := by
    refine h.settled_of_owed (l := l) ?_
    rw [owed_append, owed_owing]
    exact List.mem_append_right _ List.mem_cons_self
  have htelling : telling (fs ++ .code true :: gs) = telling (fs ++ .owing l :: gs) := by
    rw [telling_append, telling_code, telling_append, telling_owing]
  -- The listener is owed no more, wherever among the debts it stood.
  have hcalled : toldLate (tr ++ [.toldLate l]) = toldLate tr ++ [l] := filterMap_record rfl
  refine ⟨?_, ?_, ?_, ?_, ?_, fun hnone => absurd hnone hsome, hafter⟩
  · rwa [kept_skip rfl]
  · rwa [confirmations_skip rfl, kept_skip rfl, htelling]
  · rwa [registered_skip rfl, told_skip rfl, htelling]
  · rwa [asleep_skip rfl, woken_skip rfl, htelling]
  · rw [hcalled, late_skip rfl, owed_append, owed_code, List.append_assoc,
      List.singleton_append]
    refine List.Perm.trans ?_ hlate
    rw [owed_append, owed_owing]
    exact List.perm_middle.symm.append_left (toldLate tr)

/-- Each step keeps how things stand. -/
theorem acts {thread thread' : List Frame} (h : Standing tr p (fs ++ (thread ++ gs)))
    (hacts : Acts p thread e p' thread') : Standing (tr ++ [e]) p' (fs ++ (thread' ++ gs)) := by
  cases hacts with
  | keep hkeep =>
      rcases keep_eq_some hkeep with ⟨hnone, rfl, rfl, rfl⟩
      exact h.acts_keep hnone
  | refuse _ => exact h.acts_silent trivial
  | @register _ l _ _ hlisten =>
      rcases listen_eq_some hlisten with ⟨hnone, rfl⟩
      exact h.acts_register hnone l
  | @late l _ _ hlisten => exact h.acts_late (outcome_of_listen hlisten) l
  | @poll waker _ _ =>
      cases houtcome : p.outcome with
      | none =>
          rcases poll_none houtcome waker with ⟨wakers, hpoll, hmem, hsub⟩
          rw [hpoll]
          exact h.acts_sleep houtcome waker hmem hsub
      | some outcome =>
          rw [poll_some houtcome]
          exact h.acts_silent trivial
  | wake => exact h.acts_wake
  | tell => exact h.acts_tell
  | confirm => exact h.acts_confirm
  | call => exact h.acts_call
  | @leave _ panicked _ _ =>
      -- However code ends, it was telling nobody and owed nothing.
      have hsilent : (Feat.left panicked).Silent := trivial
      refine (h.acts_silent hsilent).of_frames ?_ ?_
      · simp only [telling_append, telling_code, List.cons_append]
      · simp only [owed_append, owed_code, List.cons_append]

/-- Each step comes at its time. -/
theorem timely {thread thread' : List Frame} (h : Standing tr p (fs ++ (thread ++ gs)))
    (hacts : Acts p thread e p' thread') :
    (p.outcome = none → ¬ e.Late) ∧ (p.outcome ≠ none → ¬ e.Early) := by
  cases hacts with
  | keep hkeep => exact ⟨fun _ => id, fun hsome => absurd (keep_eq_some hkeep).1 hsome⟩
  | refuse hkeep => exact ⟨fun hnone => absurd hnone (outcome_of_keep hkeep), fun _ => id⟩
  | register hlisten => exact ⟨fun _ => id, fun hsome => absurd (listen_eq_some hlisten).1 hsome⟩
  | late hlisten => exact ⟨fun hnone => absurd hnone (outcome_of_listen hlisten), fun _ => id⟩
  | @poll waker _ _ =>
      cases houtcome : p.outcome with
      | none =>
          rcases poll_none houtcome waker with ⟨wakers, hpoll, -⟩
          rw [hpoll]
          exact ⟨fun _ => id, fun hsome => absurd rfl hsome⟩
      | some outcome =>
          rw [poll_some houtcome]
          exact ⟨nofun, fun _ => id⟩
  | wake | tell | confirm =>
      -- Somebody is telling, and nobody does before the promise is kept.
      have hsome : p.outcome ≠ none := by
        intro hnone
        have htelling := (h.idle hnone).2.2.1
        simp at htelling
      exact ⟨fun hnone => absurd hnone hsome, fun _ => id⟩
  | @call l _ =>
      have hsome := h.settled_of_owed (l := l) (by simp)
      exact ⟨fun hnone => absurd hnone hsome, fun _ => id⟩
  | leave _ => exact ⟨fun _ => id, fun _ => id⟩

end Standing

end Conduit.Promise
