import Conduit.Proofs.Executor.Served
import Conduit.Script.Loops

/-!
# Benches Serve

A bench takes one step after the other on one thread, and lets each loop run until it is dry.
That is one of the ways in which the threads of its loops can go on. Seen from a single loop, a
post is a step of whoever posts, and to run the loop is a run of its own thread.

A local task takes its turns between posted ones and goes back to the end of the queue. It has
been posted once, to begin with; what is put back is not, so it does not count as waiting, and
another turn is something that the thread of the loop does between two tasks.

## Main definitions

* `LoopGroup.queue`: The queue of the loop that a number means.
* `LoopBench.service`: A loop of a bench in service.

## Theorems

* `queue_of_loop`, `queue_of_none`, `queue_setQueue`, `queue_shutdown`: The queue of a loop.
* `place_change`, `loop?_change`: A change of one loop.
* `post_eq`: A loop accepts what its queue does.
* `post_serves`, `shutdown_serves`: What a bench does to a loop is a step of another thread.
* `service_putBack`: What goes back for another turn does not wait as a task that was posted.
* `runTask_serves`, `taken_serves`: What a task does to its loop.
* `runLoop_serves`: A loop that is run runs as its thread does.
-/

namespace Conduit

open Service (Step)
open Steps (Runs)

variable {τ : Type}

/-- A task that waits because it was posted, and not for another turn. -/
def LoopTask.isPosted : LoopTask τ → Bool
  | turn _ (_ + 1) _ => false
  | _ => true

/-- A task panics. -/
def LoopTask.panics : LoopTask τ → Bool
  | panic _ => true
  | _ => false

namespace LoopGroup

variable {g : LoopGroup τ} {n : Nat}

/-- The queue of the loop that a number means. A group without loops accepts nothing. -/
def queue (g : LoopGroup τ) (n : Nat) : TaskQueue τ :=
  match g.loop? n with
  | some l => l.queue
  | none => { isShutdown := true }

theorem queue_of_loop {l : EventLoop τ} (h : g.loop? n = some l) : g.queue n = l.queue := by
  rw [queue, h]

theorem queue_of_none (h : g.loop? n = none) : g.queue n = { isShutdown := true } := by
  rw [queue, h]

/-- The group with one of its loops changed. -/
def change (g : LoopGroup τ) (n : Nat) (f : EventLoop τ → EventLoop τ) : LoopGroup τ :=
  { g with loops := g.loops.modify (g.place n) f }

theorem place_change (g : LoopGroup τ) (n : Nat) (f : EventLoop τ → EventLoop τ) (m : Nat) :
    (g.change n f).place m = g.place m := by
  rw [place, size, change, List.length_modify, place, size]

theorem loop?_change (g : LoopGroup τ) (n : Nat) (f : EventLoop τ → EventLoop τ) :
    (g.change n f).loop? n = (g.loop? n).map f := by
  rw [loop?, place_change, loop?, change, List.getElem?_modify_eq]
  rfl

theorem queue_setQueue {l : EventLoop τ} (h : g.loop? n = some l) (q : TaskQueue τ) :
    (g.setQueue n q).queue n = q := by
  have hloop := loop?_change g n ({ · with queue := q })
  rw [h] at hloop
  exact queue_of_loop hloop

theorem queue_shutdown (g : LoopGroup τ) (n : Nat) :
    (g.shutdown n).queue n = (g.queue n).shutdown := by
  have hloop := loop?_change g n fun l => { l with queue := l.queue.shutdown }
  cases h : g.loop? n with
  | none =>
      rw [h] at hloop
      exact (queue_of_none hloop).trans (congrArg TaskQueue.shutdown (queue_of_none h).symm)
  | some l =>
      rw [h] at hloop
      exact (queue_of_loop hloop).trans (congrArg TaskQueue.shutdown (queue_of_loop h).symm)

/-- A loop accepts what its queue does. -/
theorem post_eq (g : LoopGroup τ) (n : Nat) (task : τ) :
    match (g.queue n).post task with
    | .ok q => ∃ g', g.post n task = .ok g' ∧ g'.queue n = q
    | .error cause => g.post n task = .error cause := by
  cases h : g.loop? n with
  | none =>
      rw [queue_of_none h]
      change g.post n task = .error .closed
      rw [post, h]
  | some l =>
      rw [queue_of_loop h]
      cases hpost : l.queue.post task with
      | error cause =>
          change g.post n task = .error cause
          simp only [post, h, hpost]
      | ok q =>
          refine ⟨g.setQueue n q, ?_, queue_setQueue h q⟩
          simp only [post, h, hpost]

end LoopGroup

/-- The queue without the local tasks that wait for another turn. -/
def TaskQueue.posted (q : TaskQueue (LoopTask τ)) : TaskQueue (LoopTask τ) :=
  { q with pending := q.pending.filter LoopTask.isPosted }

namespace LoopBench

variable {b : LoopBench τ} {m : Nat} {task : LoopTask τ} {worker : Worker (LoopTask τ)}
  {waiter : Option Nat} {hand : Hand}

/-- A loop of a bench in service. -/
def service (b : LoopBench τ) (m : Nat) (worker : Worker (LoopTask τ)) (waiter : Option Nat) :
    Service (LoopTask τ) :=
  { queue := (b.group.queue m).posted, worker, waiter }

/-- To post a task is a step of whoever posts it. -/
theorem post_serves (hfree : (b.service m worker waiter).Free hand) (htask : task.isPosted = true) :
    Step (b.service m worker waiter)
      (match (b.post m task).1 with
        | .ok _ => .accepted hand task
        | .error cause => .refused hand task cause)
      ((b.post m task).2.service m worker waiter) := by
  have hpost := b.group.post_eq m task
  rw [LoopBench.post]
  cases hqueue : (b.group.queue m).post task with
  | error cause =>
      rw [hqueue] at hpost
      simp only [hpost]
      rcases TaskQueue.post_eq_error.mp hqueue with ⟨hshut, rfl⟩
      exact .refuse hfree (TaskQueue.post_eq_error.mpr ⟨hshut, rfl⟩)
  | ok q =>
      rw [hqueue] at hpost
      rcases hpost with ⟨g, hpost, hg⟩
      -- The group gives the member its queue back with the task behind all others.
      rcases TaskQueue.post_eq_ok.mp hqueue with ⟨hopen, rfl⟩
      have hposted : ({ b with group := g } : LoopBench τ).service m worker waiter =
          { b.service m worker waiter with
            queue := { (b.group.queue m).posted with
              pending := (b.group.queue m).posted.pending ++ [task] } } := by
        simp only [service, hg, TaskQueue.posted, List.filter_append, List.filter_cons_of_pos htask,
          List.filter_nil]
      simp only [hpost, hposted]
      exact .post hfree (TaskQueue.post_eq_ok.mpr ⟨hopen, rfl⟩)

/-- So is to shut a loop down. -/
theorem shutdown_serves (hfree : (b.service m worker waiter).Free hand) :
    Step (b.service m worker waiter) (.closed hand)
      (({ b with group := b.group.shutdown m } : LoopBench τ).service m worker
        ((b.service m worker waiter).awaiting hand)) := by
  have hclosed : ({ b with group := b.group.shutdown m } : LoopBench τ).service m worker
      ((b.service m worker waiter).awaiting hand) =
        { b.service m worker waiter with
          queue := (b.service m worker waiter).queue.shutdown
          waiter := (b.service m worker waiter).awaiting hand } := by
    simp only [service, LoopGroup.queue_shutdown, TaskQueue.posted, TaskQueue.shutdown]
  rw [hclosed]
  exact .close hfree

/-- What goes back for another turn does not wait as a task that was posted. -/
theorem service_putBack (b : LoopBench τ) (m : Nat) (htask : task.isPosted = false)
    (worker : Worker (LoopTask τ)) (waiter : Option Nat) :
    (b.putBack m task).service m worker waiter = b.service m worker waiter := by
  rw [putBack]
  cases h : b.group.loop? m with
  | none => rfl
  | some l =>
      have hskip : [task].filter LoopTask.isPosted = [] :=
        List.filter_cons_of_neg (Bool.eq_false_iff.mp htask)
      simp only [service, LoopGroup.queue_setQueue h, LoopGroup.queue_of_loop h, TaskQueue.posted,
        List.filter_append, hskip, List.append_nil]

/-- What a task does to its loop its thread does in some steps. -/
theorem runTask_serves (b : LoopBench τ) (m : Nat) (task : LoopTask τ)
    (worker : Worker (LoopTask τ)) (waiter : Option Nat) :
    ∃ tr, Runs Step (b.service m worker waiter) tr
      ((b.runTask m task).service m worker waiter) := by
  cases task with
  | locate tag | panic tag | inner tag => exact ⟨[], rfl⟩
  | outer tag =>
      have hfree : ((b.record tag .outer).service m worker waiter).Free .own := trivial
      have htask : (LoopTask.inner tag : LoopTask τ).isPosted = true := rfl
      exact ⟨_, Steps.runs_single.mpr (post_serves hfree htask)⟩
  | stop tag =>
      -- It posts to a loop that it has shut down itself, and is refused.
      have hfree : (b.service m worker waiter).Free .own := trivial
      have hfree' : (({ b with group := b.group.shutdown m } : LoopBench τ).service m worker
          waiter).Free .own := trivial
      have htask : (LoopTask.inner tag : LoopTask τ).isPosted = true := rfl
      exact ⟨_, .cons (shutdown_serves hfree) (Steps.runs_single.mpr (post_serves hfree' htask))⟩
  | turn tag done left =>
      cases left with
      | zero => exact ⟨[], rfl⟩
      | succ left =>
          refine ⟨[], ?_⟩
          rw [LoopBench.runTask]
          exact service_putBack (b.record tag (.turn done)) m rfl worker waiter

/-- A task that is taken from the queue begins, does what it does, and ends. Another turn of a
    local task is nothing that the queue is asked for. -/
theorem taken_serves {l : EventLoop (LoopTask τ)} {q : TaskQueue (LoopTask τ)}
    (h : b.group.loop? m = some l) (htake : l.queue.take? = some (task, q))
    (waiter : Option Nat) :
    ∃ tr, Runs Step (b.service m .idle waiter) tr
      ((runTask { b with group := b.group.setQueue m q } m task).service m .idle waiter) := by
  rcases TaskQueue.take?_eq_some.mp htake with ⟨hpending, hshut⟩
  have hbefore : b.service m .idle waiter = ⟨l.queue.posted, .idle, waiter⟩ := by
    rw [service, LoopGroup.queue_of_loop h]
  have hafter : ∀ worker, ({ b with group := b.group.setQueue m q } : LoopBench τ).service m
      worker waiter = ⟨q.posted, worker, waiter⟩ := by
    intro worker
    rw [service, LoopGroup.queue_setQueue h]
  cases htask : task.isPosted with
  | true =>
      rcases runTask_serves { b with group := b.group.setQueue m q } m task (.busy task) waiter
        with ⟨tr, htr⟩
      have hposted : l.queue.posted.pending = task :: q.posted.pending := by
        rw [TaskQueue.posted, hpending, List.filter_cons_of_pos htask, TaskQueue.posted]
      have hbegin : Step (b.service m .idle waiter) (.begun task)
          ⟨q.posted, .busy task, waiter⟩ := by
        rw [hbefore]
        exact .begin rfl (TaskQueue.take?_eq_some.mpr ⟨hposted, hshut⟩)
      rw [hafter] at htr
      exact ⟨_, .cons hbegin (htr.snoc (e := .ended task task.panics) (.finish rfl))⟩
  | false =>
      -- As a task that was posted it has begun and ended when it had its first turn.
      rcases runTask_serves { b with group := b.group.setQueue m q } m task .idle waiter
        with ⟨tr, htr⟩
      have hposted : l.queue.posted = q.posted := by
        rw [TaskQueue.posted, hpending, List.filter_cons_of_neg (Bool.eq_false_iff.mp htask),
          TaskQueue.posted, hshut]
      rw [hafter, ← hposted, ← hbefore] at htr
      exact ⟨tr, htr⟩

/-- A loop that is run runs as its thread does. -/
theorem runLoop_serves (b : LoopBench τ) (m limit : Nat) (waiter : Option Nat) :
    ∃ tr, Runs Step (b.service m .idle waiter) tr
      ((LoopBench.runLoop m limit b).service m .idle waiter) := by
  induction limit generalizing b with
  | zero => exact ⟨[], rfl⟩
  | succ limit ih =>
      rw [runLoop]
      cases h : b.group.loop? m with
      | none => exact ⟨[], rfl⟩
      | some l =>
          rw [Option.bind_some]
          cases htake : l.queue.take? with
          | none => exact ⟨[], rfl⟩
          | some taken =>
              -- A task that is taken is begun and finished, which is two steps of the thread.
              rcases taken_serves h htake waiter with ⟨tr, htr⟩
              rcases ih (runTask { b with group := b.group.setQueue m taken.2 } m taken.1) with
                ⟨rest, hrest⟩
              exact ⟨tr ++ rest, htr.append hrest⟩

end LoopBench

end Conduit
