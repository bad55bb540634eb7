import Conduit.Pipeline.Dispatch

/-!
# Turns of the Event Loop

Tasks that were posted run later, in the order in which they were posted, on the
thread of the task queue. What they do to a pipeline on that thread happens at
once and is not posted again.

## Main definitions

* `World.runTask`: Does what a task is for.
* `World.runTasks`: Lets the event loop run for some tasks.
-/

namespace Conduit.World

variable {σ : Type} [Journal σ]

/-- Does what a task is for. A task holds its pipeline until it is done. -/
def runTask (w : World σ) (call : Caller σ) : Task → World σ
  | .pipeline p job =>
    ((w.hold (.pipeline p)).runJob call p job).release (.pipeline p)
  | .custom tag => (call (.task tag) w).2

/-- Takes at most `limit` tasks from the queue and runs them, on the current thread. Says
    how many there were. -/
def takeTasks (w : World σ) (call : Caller σ) : (limit : Nat) → Nat × World σ
  | 0 => (0, w)
  | limit + 1 =>
    match w.queue.take? with
    | none => (0, w)
    | some (task, queue) =>
      let (n, w) := takeTasks (runTask { w with queue } call task) call limit
      (n + 1, w)

/-- Lets the event loop run at most `limit` tasks, and says how many it ran. -/
def runTasks (w : World σ) (call : Caller σ) (limit : Nat) : Nat × World σ :=
  let before := w.inQueueThread
  let (n, w) := takeTasks { w with inQueueThread := true } call limit
  (n, { w with inQueueThread := before })

/-- Runs a task on an event loop: now on the inline one, and later on the other. -/
def post (w : World σ) (call : Caller σ) (loop : LoopKind) (task : Task) : Outcome × World σ :=
  match loop with
  | .inline => (.ok (), w.runTask call task)
  | .queued =>
    match w.queue.post task with
    | .ok queue => (.ok (), { w with queue })
    | .error cause => (.error cause, w)

end Conduit.World
