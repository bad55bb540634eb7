import Conduit.Error

/-!
# Task Queues

The work that waits for an event loop. Tasks run in the order in which they were
accepted. Shutting a queue down refuses further tasks and keeps the accepted
ones, so what was accepted before still runs.

## Main definitions

* `TaskQueue`: The tasks that wait, and whether more are accepted.
* `TaskQueue.post`: Accepts a task.
* `TaskQueue.take?`: Hands out the next task.
-/

namespace Conduit

/-- The tasks that wait for an event loop. -/
structure TaskQueue (τ : Type) where
  pending : List τ := []
  isShutdown : Bool := false
  deriving Repr, Inhabited

namespace TaskQueue

variable {τ : Type}

/-- Accepts a task, unless the queue has been shut down. -/
def post (q : TaskQueue τ) (task : τ) : Except Error (TaskQueue τ) :=
  if q.isShutdown then .error .closed else .ok { q with pending := q.pending ++ [task] }

/-- Hands out the task that has waited longest. -/
def take? (q : TaskQueue τ) : Option (τ × TaskQueue τ) :=
  match q.pending with
  | [] => none
  | task :: rest => some (task, { q with pending := rest })

/-- Accepts no more tasks. -/
def shutdown (q : TaskQueue τ) : TaskQueue τ := { q with isShutdown := true }

end TaskQueue

end Conduit
