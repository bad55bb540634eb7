import Conduit.Proofs.Executor.Service

/-!
# Accepted Tasks Run Once

What posting to an event loop comes to, whoever posts and whatever happens meanwhile. A task
that is accepted runs once, after those that were accepted before it and not together with any
of them; a shutdown keeps none of them from running, nor does a panic. What is posted after a
shutdown is refused and never runs.

Each post is accepted or refused at once. When an accepted task runs is not said, so what holds
at any one moment of a run is that the accepted tasks are those that have run, the one that
runs, and those that wait, in this order. That none of them waits forever holds of steps
without an end, if the loop gets its turns (`Fair`); whatever was done before, and whichever
tasks panic, there are such steps.

## Main definitions

* `Fair`: A task that runs comes to an end, and one that waits is taken up.
* `Served`: What holds of a run.
* `toil`: What the thread of the loop does next.

## Theorems

* `standing`: What each step keeps holds of every run.
* `Standing.timely`, `Standing.answered`, `Standing.not_begun`, `Standing.all_ended`: What
  follows from it.
* `offered_perm`: What came was accepted or refused.
* `accepted_of_closed`, `awaited`: What holds after a shutdown.
* `standing_record`, `record_grows`, `length_ended_le`: Steps without an end.
* `Step.busy_of_begun`, `Fair.ends_later`: A task that runs has run at last.
* `Fair.progress`: One more task comes to an end, if one has been accepted that has not.
* `Fair.served`: All that were accepted come to an end.
* `toil_step`, `fair_toiling`, `panics_toil`: A loop that is left to itself is fair.
* `run_served`: What holds of every run.
* `sampleDeeds_runs`, `run_served_sampleDeeds`: Two threads, a panic and a shutdown.
-/

namespace Conduit.Service

open Steps (Runs Endless)

variable {τ : Type} {tr : List (Deed τ)} {s : Service τ}

/-- The loop gets its turns: a task that runs comes to an end, by returning or in a panic, and
    a thread that has nothing to do takes up a task if one waits. -/
structure Fair (c : Endless (Step (τ := τ)) s) : Prop where
  ends : ∀ n task, (c.state n).worker = .busy task →
    ∃ m, n ≤ m ∧ ∃ panicked, c.entry m = some (.ended task panicked)
  begins : ∀ n, (c.state n).worker = .idle → (c.state n).queue.pending ≠ [] →
    ∃ m, n ≤ m ∧ ∃ task, c.entry m = some (.begun task)

/-- What holds of a run, at any moment. -/
structure Served (tr : List (Deed τ)) (s : Service τ) : Prop where
  /-- The tasks that were accepted are those that have run, the one that runs and those that
      wait, in the order in which they were accepted. -/
  order : accepted tr = ended tr ++ s.outstanding
  /-- Nothing else has been run, and one task at a time. -/
  begun : begun tr = ended tr ++ s.worker.current
  /-- Whatever is accepted comes before the loop is shut down, and what is refused comes after
      that and is told so. -/
  timely : ∀ before d after, tr = before ++ d :: after →
    (∀ hand task, d = .accepted hand task → ¬ Closed before) ∧
      ∀ hand task cause, d = .refused hand task cause → Closed before ∧ cause = .closed
  /-- A post is accepted at once, or refused at once. -/
  answered : ∀ hand task, s.Free hand →
    (¬ Closed tr → ∃ s', Step s (.accepted hand task) s') ∧
      (Closed tr → Step s (.refused hand task .closed) s)
  /-- A task that is refused does not run. -/
  refused : (offered tr).Nodup → ∀ task ∈ refused tr, task ∉ Service.begun tr
  /-- The thread does not end before all have run that were accepted. -/
  gone : s.worker = .gone → ended tr = accepted tr
  /-- Nor does anyone go on before that who waits for it. -/
  awaited : ∀ before n after, tr = before ++ .released n :: after → ended before = accepted tr
  /-- All that have been accepted have run at last, if the loop gets its turns. -/
  finish : ∀ c : Endless Step s, Fair c → ∀ n, ∃ m,
    accepted (tr ++ c.record n) <+: ended (tr ++ c.record m)
  /-- It can get its turns, whichever tasks panic. -/
  possible : ∀ panics : τ → Bool, ∃ c : Endless Step s, Fair c ∧
    ∀ n task panicked, c.entry n = some (.ended task panicked) → panicked = panics task

/-! ### One moment after the other -/

theorem standing (h : Runs Step {} tr s) : Standing tr s :=
  h.keeps Standing.start fun _ _ _ _ => Standing.step

/-- A step is taken at its time. -/
theorem Standing.timely {d : Deed τ} {s' : Service τ} (h : Standing tr s) (hstep : Step s d s') :
    (∀ hand task, d = .accepted hand task → ¬ Closed tr) ∧
      ∀ hand task cause, d = .refused hand task cause → Closed tr ∧ cause = .closed := by
  rw [← h.closed]
  cases hstep with
  | post hfree hpost =>
      refine ⟨fun _ _ _ hshut => ?_, nofun⟩
      exact nomatch (TaskQueue.post_eq_ok.mp hpost).1.symm.trans hshut
  | refuse hfree hpost =>
      refine ⟨nofun, ?_⟩
      rintro _ _ _ ⟨⟩
      exact TaskQueue.post_eq_error.mp hpost
  | _ => exact ⟨nofun, nofun⟩

theorem Standing.answered (h : Standing tr s) (task : τ) {hand : Hand} (hfree : s.Free hand) :
    (¬ Closed tr → ∃ s', Step s (.accepted hand task) s') ∧
      (Closed tr → Step s (.refused hand task .closed) s) := by
  rw [← h.closed, Bool.not_eq_true]
  constructor
  · intro hopen
    exact ⟨_, .post hfree (TaskQueue.post_eq_ok.mpr ⟨hopen, rfl⟩)⟩
  · intro hshut
    exact .refuse hfree (TaskQueue.post_eq_error.mpr ⟨hshut, rfl⟩)

/-- What came was accepted or refused. -/
theorem offered_perm (tr : List (Deed τ)) : (offered tr).Perm (accepted tr ++ refused tr) := by
  induction tr with
  | nil => exact List.Perm.nil
  | cons d tr ih =>
      cases d with
      | accepted hand task => exact ih.cons task
      | refused hand task cause => exact (ih.cons task).trans List.perm_middle.symm
      | _ => exact ih

theorem Standing.not_begun (h : Standing tr s) (hnodup : (offered tr).Nodup) {task : τ}
    (hrefused : task ∈ Service.refused tr) : task ∉ Service.begun tr := by
  intro hbegun
  have haccepted : task ∈ accepted tr := by
    rw [h.begun] at hbegun
    rw [h.order, outstanding, ← List.append_assoc]
    exact List.mem_append_left _ hbegun
  have hapart := List.nodup_append.mp ((offered_perm tr).nodup_iff.mp hnodup)
  exact hapart.2.2 task haccepted task hrefused rfl

theorem Standing.all_ended (h : Standing tr s) (hgone : s.worker = .gone) :
    ended tr = accepted tr := by
  rw [h.order, outstanding, hgone, (h.gone hgone).2]
  exact (List.append_nil _).symm

/-- After a shutdown nothing more is accepted. -/
theorem accepted_of_closed {before after : List (Deed τ)} (h : Runs Step {} (before ++ after) s)
    (hclosed : Closed before) : accepted (before ++ after) = accepted before := by
  rw [accepted_append, List.append_right_eq_self, accepted, List.filterMap_eq_nil_iff]
  intro d hd
  rcases List.append_of_mem hd with ⟨first, last, rfl⟩
  rw [← List.append_assoc] at h
  rcases h.step_at with ⟨mid, next, hbefore, hstep, -⟩
  cases d with
  | accepted hand task =>
      have htimely := ((standing hbefore).timely hstep).1 hand task rfl
      exact absurd (closed_append.mpr (Or.inl hclosed)) htimely
  | _ => rfl

theorem awaited {before after : List (Deed τ)} {n : Nat}
    (h : Runs Step {} (before ++ .released n :: after) s) :
    ended before = accepted (before ++ .released n :: after) := by
  rcases h.step_at with ⟨mid, next, hbefore, hstep, -⟩
  have hmid := standing hbefore
  cases hstep with
  | release hwaiter hgone =>
      rw [accepted_of_closed h (hmid.closed.mp (hmid.gone hgone).1)]
      exact hmid.all_ended hgone

/-! ### Steps without an end -/

section Endless

variable {c : Endless Step s}

theorem standing_record (h : Runs Step {} tr s) (n : Nat) :
    Standing (tr ++ c.record n) (c.state n) :=
  standing (h.append (c.runs n))

theorem record_grows (tr : List (Deed τ)) (c : Endless Step s) {n m : Nat} (h : n ≤ m) :
    tr ++ c.record n <+: tr ++ c.record m :=
  (List.prefix_append_right_inj tr).mpr (c.record_prefix h)

theorem length_ended_le {n m : Nat} (h : n ≤ m) :
    (ended (tr ++ c.record n)).length ≤ (ended (tr ++ c.record m)).length :=
  ((record_grows tr c h).filterMap _).length_le

theorem Step.busy_of_begun {s s' : Service τ} {task : τ} (h : Step s (.begun task) s') :
    s'.worker = .busy task := by
  cases h
  rfl

/-- A task that runs has run at last. -/
theorem Fair.ends_later (hfair : Fair c) (tr : List (Deed τ)) {n : Nat} {task : τ}
    (hbusy : (c.state n).worker = .busy task) :
    ∃ m, n ≤ m ∧ (ended (tr ++ c.record n)).length < (ended (tr ++ c.record m)).length := by
  rcases hfair.ends n task hbusy with ⟨m, hle, panicked, hentry⟩
  have hlast : ended (tr ++ c.record (m + 1)) = ended (tr ++ c.record m) ++ [task] := by
    rw [c.record_succ, hentry, ← List.append_assoc, ended_append]
    rfl
  refine ⟨m + 1, Nat.le_succ_of_le hle, ?_⟩
  rw [hlast, List.length_append, List.length_singleton]
  exact Nat.lt_succ_of_le (length_ended_le hle)

/-- One more task comes to an end, if one has been accepted that has not. -/
theorem Fair.progress (hfair : Fair c) (h : Runs Step {} tr s) {n : Nat}
    (hless : (ended (tr ++ c.record n)).length < (accepted (tr ++ c.record n)).length) :
    ∃ m, n ≤ m ∧ (ended (tr ++ c.record n)).length < (ended (tr ++ c.record m)).length := by
  have hstanding := standing_record (c := c) h n
  cases hworker : (c.state n).worker with
  | busy task => exact hfair.ends_later tr hworker
  | idle =>
      -- None runs, so the one that has not ended waits.
      have hpending : (c.state n).queue.pending ≠ [] := by
        intro hnone
        rw [hstanding.order, outstanding, hworker, hnone] at hless
        exact absurd hless (by rw [Worker.current, List.append_nil, List.append_nil]; omega)
      -- Some task is taken up then; it need not be the one that was meant.
      rcases hfair.begins n hworker hpending with ⟨m, hle, task, hentry⟩
      have hbusy : (c.state (m + 1)).worker = .busy task := by
        have hnext := c.next m
        rw [hentry] at hnext
        exact Step.busy_of_begun hnext
      rcases hfair.ends_later tr hbusy with ⟨k, hk, hlast⟩
      have hgrows : (ended (tr ++ c.record n)).length ≤ (ended (tr ++ c.record (m + 1))).length :=
        length_ended_le (by omega)
      exact ⟨k, by omega, by omega⟩
  | gone =>
      rw [hstanding.all_ended hworker] at hless
      omega

/-- All that were accepted come to an end. -/
theorem Fair.served (hfair : Fair c) (h : Runs Step {} tr s) (n : Nat) :
    ∃ m, accepted (tr ++ c.record n) <+: ended (tr ++ c.record m) := by
  -- By induction on how many of those that were accepted have not ended. What is accepted
  -- later runs later, so it is enough to count.
  suffices hrest : ∀ left m, n ≤ m →
      (accepted (tr ++ c.record n)).length ≤ (ended (tr ++ c.record m)).length + left →
      ∃ m, accepted (tr ++ c.record n) <+: ended (tr ++ c.record m) from
    hrest _ n (Nat.le_refl n) (Nat.le_add_left _ _)
  intro left
  induction left with
  | zero =>
      intro m hle hlength
      have hstanding := standing_record (c := c) h m
      have haccepted : accepted (tr ++ c.record n) <+: accepted (tr ++ c.record m) :=
        (record_grows tr c hle).filterMap _
      have hended : ended (tr ++ c.record m) <+: accepted (tr ++ c.record m) :=
        ⟨_, hstanding.order.symm⟩
      exact ⟨m, List.prefix_of_prefix_length_le haccepted hended hlength⟩
  | succ left ih =>
      intro m hle hlength
      by_cases hdone : (accepted (tr ++ c.record n)).length ≤ (ended (tr ++ c.record m)).length
      · exact ih m hle (by omega)
      · have hgrows : (accepted (tr ++ c.record n)).length ≤ (accepted (tr ++ c.record m)).length :=
          ((record_grows tr c hle).filterMap _).length_le
        rcases hfair.progress h (n := m) (by omega) with ⟨k, hk, hmore⟩
        exact ih k (by omega) (by omega)

end Endless

/-! ### The thread gets its turns -/

/-- What the thread of the loop does next, if tasks panic as they are told to. -/
def toil (panics : τ → Bool) (s : Service τ) : Option (Deed τ × Service τ) :=
  match s.worker with
  | .busy task => some (.ended task (panics task), { s with worker := .idle })
  | .idle =>
    match s.queue.take? with
    | some (task, queue) => some (.begun task, { s with queue := queue, worker := .busy task })
    | none => none
  | .gone => none

theorem toil_step {panics : τ → Bool} {d : Deed τ} {s' : Service τ}
    (h : toil panics s = some (d, s')) : Step s d s' := by
  rw [toil] at h
  cases hworker : s.worker with
  | busy task =>
      rw [hworker] at h
      cases h
      exact .finish hworker
  | idle =>
      rw [hworker] at h
      cases htake : s.queue.take? with
      | none =>
          rw [htake] at h
          cases h
      | some taken =>
          rw [htake] at h
          cases h
          exact .begin hworker htake
  | gone =>
      rw [hworker] at h
      cases h

/-- The thread of the loop goes on by itself. -/
def toiling (panics : τ → Bool) (s : Service τ) : Endless Step s :=
  .alone (toil panics) (fun _ _ _ => toil_step) s

theorem fair_toiling (panics : τ → Bool) (s : Service τ) : Fair (toiling panics s) where
  ends n task hbusy := by
    refine ⟨n, Nat.le_refl n, panics task, ?_⟩
    rw [toiling, Endless.entry_alone, ← toiling, toil, hbusy]
    rfl
  begins n hidle hpending := by
    rcases List.exists_cons_of_ne_nil hpending with ⟨task, rest, hcons⟩
    refine ⟨n, Nat.le_refl n, task, ?_⟩
    rw [toiling, Endless.entry_alone, ← toiling, toil, hidle, TaskQueue.take?, hcons]
    rfl

theorem panics_toil {panics : τ → Bool} {task : τ} {panicked : Bool} {s' : Service τ}
    (h : toil panics s = some (.ended task panicked, s')) : panicked = panics task := by
  rw [toil] at h
  cases hworker : s.worker with
  | busy other =>
      rw [hworker] at h
      cases h
      rfl
  | idle =>
      rw [hworker] at h
      cases htake : s.queue.take? with
      | none => exact nomatch htake ▸ h
      | some taken => exact nomatch htake ▸ h
  | gone =>
      rw [hworker] at h
      cases h

/-! ### Every run -/

/-- What holds of an event loop that any number of threads post to. -/
theorem run_served (h : Runs Step {} tr s) : Served tr s := by
  have hstanding := standing h
  constructor
  case order => exact hstanding.order
  case begun => exact hstanding.begun
  case timely =>
    -- The step is taken out of the run, with what stood before it.
    rintro before d after rfl
    rcases h.step_at with ⟨mid, next, hbefore, hstep, -⟩
    exact (standing hbefore).timely hstep
  case answered => exact fun hand task hfree => hstanding.answered task hfree
  case refused => exact fun hnodup task hrefused => hstanding.not_begun hnodup hrefused
  case gone => exact hstanding.all_ended
  case awaited =>
    rintro before n after rfl
    exact awaited h
  case finish => exact fun c hfair n => hfair.served h n
  case possible =>
    intro panics
    refine ⟨toiling panics s, fair_toiling panics s, ?_⟩
    intro n task panicked hentry
    rw [toiling, Endless.entry_alone, ← toiling, Option.map_eq_some_iff] at hentry
    rcases hentry with ⟨⟨d, s'⟩, htoil, rfl⟩
    exact panics_toil htoil

/-- A run with two threads. The first task posts another one and panics, the loop is shut down
    while it runs, and whoever has shut it down waits. -/
def sampleDeeds : List (Deed Nat) :=
  [.accepted (.other 1) 10, .begun 10, .accepted .own 11, .accepted (.other 2) 12, .ended 10 true,
    .closed (.other 1), .refused (.other 2) 13 .closed, .begun 11, .ended 11 false, .begun 12,
    .closed .own, .refused .own 14 .closed, .ended 12 false, .left, .released 1]

def sampleService : Service Nat where
  queue := { pending := [], isShutdown := true }
  worker := .gone

theorem sampleDeeds_runs : Runs Step {} sampleDeeds sampleService := by
  have h : Runs Step ({} : Service Nat) [] {} := rfl
  have h := h.snoc (e := .accepted (.other 1) 10) (.post (by decide) rfl)
  have h := h.snoc (.begin rfl rfl)
  have h := h.snoc (e := .accepted .own 11) (.post (by decide) rfl)
  have h := h.snoc (e := .accepted (.other 2) 12) (.post (by decide) rfl)
  have h := h.snoc (e := .ended 10 true) (.finish rfl)
  have h := h.snoc (e := .closed (.other 1)) (.close (by decide))
  have h := h.snoc (e := .refused (.other 2) 13 .closed) (.refuse (by decide) rfl)
  have h := h.snoc (.begin rfl rfl)
  have h := h.snoc (e := .ended 11 false) (.finish rfl)
  have h := h.snoc (.begin rfl rfl)
  have h := h.snoc (e := .closed .own) (.close (by decide))
  have h := h.snoc (e := .refused .own 14 .closed) (.refuse (by decide) rfl)
  have h := h.snoc (e := .ended 12 false) (.finish rfl)
  have h := h.snoc (.leave rfl rfl rfl)
  exact h.snoc (.release rfl rfl)

theorem run_served_sampleDeeds :
    Runs Step {} sampleDeeds sampleService ∧ Served sampleDeeds sampleService :=
  ⟨sampleDeeds_runs, run_served sampleDeeds_runs⟩

end Conduit.Service
