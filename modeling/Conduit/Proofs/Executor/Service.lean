import Conduit.Executor.TaskQueue
import Conduit.Proofs.Steps

/-!
# An Event Loop in Service

Any number of threads post tasks to one event loop and shut it down. What is done under the
lock of its queue is one step. So is what the thread of the loop does to its queue: it takes
up a task, or finds that there is none and that there will be none, and ends. While a task
runs, the others go on, and the task may post and shut down as they do. Local tasks take turns
with the posted ones on that thread; they are not posted, and all that is seen of them here is
that the thread may use its loop also between two tasks.

A task may end in a panic, which carries a message and gets no further than the task. Whoever
shuts a loop down first waits until its thread has ended, unless it is that thread; nobody else
waits for anything. A thread is taken to have started.

What has been done is read off the entries of a run, and what an invariant has to say is where
each accepted task is now: it waits, or runs, or has run.

## Main definitions

* `Service`: An event loop and its thread.
* `Deed`, `Step`: What is done to it.
* `accepted`, `refused`, `begun`, `ended`, `Closed`: What has been done.
* `Standing`: How things stand after some steps.

## Theorems

* `TaskQueue.post_eq_ok`, `TaskQueue.post_eq_error`: When a task is accepted.
* `TaskQueue.take?_eq_none`, `TaskQueue.take?_eq_some`: When a task is taken up.
* `accepted_append`, `begun_append`, `ended_append`, `accepted_skip`, `begun_skip`,
  `ended_skip`: What was done, in order.
* `closed_append`, `closed_of_closes`, `closed_skip`: Whether there was a shutdown.
* `Standing.start`, `Standing.silent`: What holds at first, and after a step that no task
  notices.
* `Standing.step`: What each step keeps.
-/

namespace Conduit

variable {τ : Type}

/-! ### The queue -/

namespace TaskQueue

variable {q q' : TaskQueue τ} {task : τ} {cause : Error}

theorem post_eq_ok :
    q.post task = .ok q' ↔
      q.isShutdown = false ∧ q' = { q with pending := q.pending ++ [task] } := by
  rw [post]
  cases q.isShutdown with
  | false => exact ⟨fun h => ⟨rfl, (Except.ok.inj h).symm⟩, fun h => congrArg Except.ok h.2.symm⟩
  | true => exact ⟨nofun, nofun⟩

theorem post_eq_error : q.post task = .error cause ↔ q.isShutdown = true ∧ cause = .closed := by
  rw [post]
  cases q.isShutdown with
  | false => exact ⟨nofun, nofun⟩
  | true =>
      exact ⟨fun h => ⟨rfl, (Except.error.inj h).symm⟩, fun h => congrArg Except.error h.2.symm⟩

theorem take?_eq_none : q.take? = none ↔ q.pending = [] := by
  rw [take?]
  cases q.pending with
  | nil => exact ⟨fun _ => rfl, fun _ => rfl⟩
  | cons task rest => exact ⟨nofun, nofun⟩

theorem take?_eq_some :
    q.take? = some (task, q') ↔ q.pending = task :: q'.pending ∧ q'.isShutdown = q.isShutdown := by
  rcases q with ⟨pending, isShutdown⟩
  rcases q' with ⟨rest, isShutdown'⟩
  cases pending with
  | nil => exact ⟨nofun, nofun⟩
  | cons first pending =>
      constructor
      · rintro ⟨⟩
        exact ⟨rfl, rfl⟩
      · rintro ⟨⟨⟩, ⟨⟩⟩
        rfl

end TaskQueue

/-! ### The loop and its thread -/

/-- A thread that uses an event loop. -/
inductive Hand where
  /-- The thread of the loop itself. -/
  | own
  | other (n : Nat)
  deriving DecidableEq, Repr, Inhabited

/-- What the thread of an event loop is in the middle of. -/
inductive Worker (τ : Type) where
  | idle
  | busy (task : τ)
  /-- It has come to the end of its queue. -/
  | gone
  deriving Repr, Inhabited

/-- The task that runs, if one does. -/
def Worker.current : Worker τ → List τ
  | .busy task => [task]
  | .idle | .gone => []

/-- An event loop and its thread. -/
structure Service (τ : Type) where
  queue : TaskQueue τ := {}
  worker : Worker τ := .idle
  /-- The thread that has shut the loop down and waits for the thread of the loop. -/
  waiter : Option Nat := none
  deriving Repr, Inhabited

namespace Service

/-- The tasks that have been accepted and have not come to an end. -/
def outstanding (s : Service τ) : List τ := s.worker.current ++ s.queue.pending

/-- A thread does not wait for the loop to end. -/
def Free (s : Service τ) : Hand → Prop
  | .own => True
  | .other n => s.waiter ≠ some n

instance (s : Service τ) : DecidablePred s.Free
  | .own => inferInstanceAs (Decidable True)
  | .other n => inferInstanceAs (Decidable (s.waiter ≠ some n))

/-- Who waits after a thread has shut the loop down. -/
def awaiting (s : Service τ) (hand : Hand) : Option Nat :=
  match hand with
  | .own => s.waiter
  | .other n => if s.queue.isShutdown then s.waiter else some n

/-- What a step does. -/
inductive Deed (τ : Type) where
  /-- A task is posted. -/
  | accepted (hand : Hand) (task : τ)
  /-- A task is to be posted, and is not. -/
  | refused (hand : Hand) (task : τ) (cause : Error)
  | closed (hand : Hand)
  /-- Nobody holds the loop any longer, which closes its queue. -/
  | dropped
  /-- Whoever waited goes on. -/
  | released (n : Nat)
  | begun (task : τ)
  /-- A task ends, by returning or in a panic. -/
  | ended (task : τ) (panicked : Bool)
  /-- The thread of the loop ends. -/
  | left
  deriving Repr, Inhabited

/-- A step of any of the threads. -/
inductive Step : Service τ → Deed τ → Service τ → Prop
  | post {s : Service τ} {hand task queue} : s.Free hand → s.queue.post task = .ok queue →
    Step s (.accepted hand task) { s with queue := queue }
  | refuse {s : Service τ} {hand task cause} : s.Free hand → s.queue.post task = .error cause →
    Step s (.refused hand task cause) s
  | close {s : Service τ} {hand} : s.Free hand →
    Step s (.closed hand) { s with queue := s.queue.shutdown, waiter := s.awaiting hand }
  | drop {s : Service τ} : Step s .dropped { s with queue := s.queue.shutdown }
  | release {s : Service τ} {n} : s.waiter = some n → s.worker = .gone →
    Step s (.released n) { s with waiter := none }
  | begin {s : Service τ} {task queue} : s.worker = .idle → s.queue.take? = some (task, queue) →
    Step s (.begun task) { s with queue := queue, worker := .busy task }
  | finish {s : Service τ} {task panicked} : s.worker = .busy task →
    Step s (.ended task panicked) { s with worker := .idle }
  | leave {s : Service τ} : s.worker = .idle → s.queue.take? = none →
    s.queue.isShutdown = true → Step s .left { s with worker := .gone }

/-! ### What has been done -/

/-- The tasks that were posted. -/
def accepted (tr : List (Deed τ)) : List τ :=
  tr.filterMap fun
    | .accepted _ task => some task
    | _ => none

/-- The tasks that were not accepted. -/
def refused (tr : List (Deed τ)) : List τ :=
  tr.filterMap fun
    | .refused _ task _ => some task
    | _ => none

/-- All tasks that came, accepted or not. -/
def offered (tr : List (Deed τ)) : List τ :=
  tr.filterMap fun
    | .accepted _ task | .refused _ task _ => some task
    | _ => none

/-- The tasks that have begun to run. -/
def begun (tr : List (Deed τ)) : List τ :=
  tr.filterMap fun
    | .begun task => some task
    | _ => none

/-- The tasks that have run. -/
def ended (tr : List (Deed τ)) : List τ :=
  tr.filterMap fun
    | .ended task _ => some task
    | _ => none

/-- A step after which no task is accepted. -/
def Deed.Closes : Deed τ → Prop
  | .closed _ | .dropped => True
  | _ => False

/-- The loop has been shut down. -/
def Closed (tr : List (Deed τ)) : Prop := ∃ d ∈ tr, d.Closes

/-! ### What a run keeps -/

/-- How things stand after some steps. -/
structure Standing (tr : List (Deed τ)) (s : Service τ) : Prop where
  order : accepted tr = ended tr ++ s.outstanding
  begun : begun tr = ended tr ++ s.worker.current
  closed : s.queue.isShutdown = true ↔ Closed tr
  /-- A thread does not end before it has come to the end of its queue. -/
  gone : s.worker = .gone → s.queue.isShutdown = true ∧ s.queue.pending = []

variable {tr tr' : List (Deed τ)} {s s' : Service τ} {d : Deed τ}

theorem accepted_append : accepted (tr ++ tr') = accepted tr ++ accepted tr' :=
  List.filterMap_append

theorem begun_append : begun (tr ++ tr') = begun tr ++ begun tr' := List.filterMap_append

theorem ended_append : ended (tr ++ tr') = ended tr ++ ended tr' := List.filterMap_append

theorem accepted_skip (h : accepted [d] = []) : accepted (tr ++ [d]) = accepted tr := by
  rw [accepted_append, h, List.append_nil]

theorem begun_skip (h : begun [d] = []) : begun (tr ++ [d]) = begun tr := by
  rw [begun_append, h, List.append_nil]

theorem ended_skip (h : ended [d] = []) : ended (tr ++ [d]) = ended tr := by
  rw [ended_append, h, List.append_nil]

theorem closed_append : Closed (tr ++ tr') ↔ Closed tr ∨ Closed tr' := by
  constructor
  · rintro ⟨d, hd, hcloses⟩
    rcases List.mem_append.mp hd with hd | hd
    · exact Or.inl ⟨d, hd, hcloses⟩
    · exact Or.inr ⟨d, hd, hcloses⟩
  · rintro (⟨d, hd, hcloses⟩ | ⟨d, hd, hcloses⟩)
    · exact ⟨d, List.mem_append_left _ hd, hcloses⟩
    · exact ⟨d, List.mem_append_right _ hd, hcloses⟩

theorem closed_of_closes (h : d.Closes) : Closed (tr ++ [d]) :=
  ⟨d, List.mem_append_right _ (List.mem_singleton_self d), h⟩

theorem closed_skip (h : ¬ d.Closes) : Closed (tr ++ [d]) ↔ Closed tr := by
  rw [closed_append]
  refine or_iff_left ?_
  rintro ⟨d', hd', hcloses⟩
  exact h (List.mem_singleton.mp hd' ▸ hcloses)

namespace Standing

theorem start : Standing ([] : List (Deed τ)) {} where
  order := rfl
  begun := rfl
  closed := ⟨nofun, fun ⟨_, hd, _⟩ => absurd hd List.not_mem_nil⟩
  gone := nofun

/-- A step that no task notices. -/
theorem silent (h : Standing tr s) (haccepted : accepted [d] = []) (hbegun : Service.begun [d] = [])
    (hended : ended [d] = []) (hworker : s'.worker = s.worker)
    (hpending : s'.queue.pending = s.queue.pending)
    (hclosed : s'.queue.isShutdown = true ↔ Closed (tr ++ [d])) : Standing (tr ++ [d]) s' := by
  constructor
  case order =>
    rw [accepted_skip haccepted, ended_skip hended, outstanding, hworker, hpending]
    exact h.order
  case begun =>
    rw [begun_skip hbegun, ended_skip hended, hworker]
    exact h.begun
  case closed => exact hclosed
  case gone =>
    intro hgone
    rw [hworker] at hgone
    rw [hclosed, hpending, closed_append, ← h.closed]
    exact ⟨Or.inl (h.gone hgone).1, (h.gone hgone).2⟩

/-- Each step moves one task on by one place at most: it comes to the queue, is taken up from
    there, or comes to an end. -/
theorem step (h : Standing tr s) (hstep : Step s d s') : Standing (tr ++ [d]) s' := by
  have ⟨horder, hbegun, hclosed, hgone⟩ := h
  cases hstep with
  | @post hand task queue hfree hpost =>
      rcases TaskQueue.post_eq_ok.mp hpost with ⟨hopen, rfl⟩
      constructor
      case order =>
        rw [accepted_append, ended_skip rfl, horder, outstanding, List.append_assoc,
          List.append_assoc]
        rfl
      case begun => rwa [begun_skip rfl, ended_skip rfl]
      case closed => exact hclosed.trans (closed_skip id).symm
      case gone => exact fun hworker => nomatch hopen.symm.trans (hgone hworker).1
  | refuse hfree hpost => exact h.silent rfl rfl rfl rfl rfl (hclosed.trans (closed_skip id).symm)
  | close hfree =>
      exact h.silent rfl rfl rfl rfl rfl ⟨fun _ => closed_of_closes trivial, fun _ => rfl⟩
  | drop => exact h.silent rfl rfl rfl rfl rfl ⟨fun _ => closed_of_closes trivial, fun _ => rfl⟩
  | release hwaiter hworker =>
      exact h.silent rfl rfl rfl rfl rfl (hclosed.trans (closed_skip id).symm)
  | @begin task queue hidle htake =>
      rcases TaskQueue.take?_eq_some.mp htake with ⟨hpending, hshut⟩
      -- The task leaves the head of the queue and is the one that runs, so what has been
      -- accepted and not ended is the same list as before.
      rw [outstanding, hidle, hpending] at horder
      rw [hidle] at hbegun
      refine ⟨?_, ?_, ?_, nofun⟩
      · rwa [accepted_skip rfl, ended_skip rfl]
      · rw [begun_append, ended_skip rfl, hbegun, List.append_assoc]
        rfl
      · rw [hshut, hclosed, closed_skip id]
  | @finish task panicked hbusy =>
      -- It was the first of those that had not ended, and is the last of those that have.
      rw [outstanding, hbusy] at horder
      rw [hbusy] at hbegun
      refine ⟨?_, ?_, hclosed.trans (closed_skip id).symm, nofun⟩
      · rw [accepted_skip rfl, ended_append, List.append_assoc]
        exact horder
      · rw [begun_skip rfl, ended_append, List.append_assoc]
        exact hbegun
  | leave hidle htake hshut =>
      rw [outstanding, hidle] at horder
      rw [hidle] at hbegun
      refine ⟨?_, ?_, hclosed.trans (closed_skip id).symm,
        fun _ => ⟨hshut, TaskQueue.take?_eq_none.mp htake⟩⟩
      · rwa [accepted_skip rfl, ended_skip rfl]
      · rwa [begun_skip rfl, ended_skip rfl]

end Standing

end Service

end Conduit
