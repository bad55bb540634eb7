import Conduit.Executor.LocalThread

/-!
# Local Tasks at Work

Programs that spawn local tasks on one thread, do something with each, and leave
the thread. Tasks that nobody has let go of by then are asked for their results
afterwards. Those that had not ended were cancelled with the thread.

## Main definitions

* `LocalPlan`: What a task does.
* `LocalControl`: What the program does with a task.
* `LocalBench.run`: A program.
-/

namespace Conduit

/-- What a task does: it gives way so many times, and then ends. -/
structure LocalPlan where
  id : String
  yields : Nat
  value : Int
  panics : Option Error.Payload

/-- What the program does with a task that it holds. -/
inductive LocalUse where
  | await
  | cancel
  | detach
  | isFinished
  deriving DecidableEq, Repr, Inhabited

/-- What the program does. -/
inductive LocalControl where
  | use (use : LocalUse) (id : String)
  /-- It lets go of a task, if it holds one of that name, and gives way. -/
  | yield (id : String)
  /-- A control of any other name: it lets go of a task, if it holds one, and nothing comes
      of it. -/
  | unknown (name id : String)
  deriving Repr, Inhabited

/-- What a control answers. -/
inductive LocalReply where
  | done
  | absent
  | flag (value : Bool)
  | result (result : Except TaskError Int)

/-- Something that happened. -/
inductive LocalEntry where
  /-- A task is about to give way. -/
  | step (id : String) (n : Nat)
  | ended (id : String)
  | controlled (control : LocalControl) (reply : LocalReply)

/-- What a program leaves behind. -/
structure LocalReport where
  /-- What comes of spawning a task before the thread is there. -/
  outside : Option Error.Payload
  /-- Whether local tasks can be spawned before, during and after the program. -/
  canSpawn : Bool × Bool × Bool
  log : List LocalEntry
  /-- The tasks that were still held, by name: whether they have ended, and how. -/
  left : List (String × Bool × Except TaskError Int)

/-- Tasks on their thread, and those that the program holds. -/
structure LocalBench where
  thread : LocalThread LocalEntry Int := {}
  held : List (String × Nat) := []

namespace LocalBench

/-- The task that follows a plan. -/
def task (plan : LocalPlan) : LocalTask LocalEntry Int where
  bursts := (List.range plan.yields).map (fun n => [.step plan.id n]) ++ [[.ended plan.id]]
  result :=
    match plan.panics with
    | some payload => .error (.panicked (.ofPanic payload))
    | none => .ok plan.value

/-- The task that is held under a name. -/
def find? (b : LocalBench) (id : String) : Option Nat := b.held.lookup id

/-- Lets go of the task that is held under a name. -/
def release (b : LocalBench) (id : String) : LocalBench :=
  { b with held := b.held.filter (·.1 != id) }

/-- Spawns a task and holds it, in place of any other of its name. -/
def spawn (b : LocalBench) (plan : LocalPlan) : LocalBench :=
  let (n, thread) := b.thread.spawn (task plan)
  { thread, held := (plan.id, n) :: (b.release plan.id).held }

/-- Does something with a task. -/
def useTask (b : LocalBench) (n : Nat) (id : String) : LocalUse → LocalReply × LocalBench
  | .await =>
    let thread := b.thread.await n
    let reply := match thread.result? n with
      | some result => .result result
      | none => .absent
    (reply, { b.release id with thread })
  | .cancel => (.done, { b.release id with thread := b.thread.cancel n })
  | .detach => (.done, b.release id)
  | .isFinished => (.flag (b.thread.isFinished n), b)

/-- Does something. -/
def control (b : LocalBench) : LocalControl → LocalReply × LocalBench
  | .yield id => (.done, { b.release id with thread := b.thread.round })
  | .unknown _ id => (.absent, b.release id)
  | .use use id =>
    match b.find? id with
    | some n => b.useTask n id use
    | none => (.absent, b)

/-- Does something, and logs it. -/
def step (b : LocalBench) (c : LocalControl) : LocalBench :=
  let (reply, b) := b.control c
  { b with thread := b.thread.record (.controlled c reply) }

/-- The tasks that are still held when the thread is gone, in the order of their names. -/
def leftOver (b : LocalBench) : List (String × Bool × Except TaskError Int) :=
  let thread := b.thread.cancelAll
  let byName := b.held.mergeSort fun x y => decide (x.1 ≤ y.1)
  byName.filterMap fun (id, n) =>
    (thread.result? n).map fun result => (id, thread.isFinished n, result)

/-- The panic that comes of spawning a task on a thread, if one does. -/
def spawnPanic (current : Option (LocalThread LocalEntry Int)) : Option Error.Payload :=
  match LocalThread.spawnOn current ⟨[], .ok 0⟩ with
  | .ok _ => none
  | .error payload => some payload

/-- A program: tasks, and what is done with them. -/
def run (plans : List LocalPlan) (controls : List LocalControl) : LocalReport :=
  let b := controls.foldl step (plans.foldl spawn {})
  let can := fun current => (spawnPanic current).isNone
  { outside := spawnPanic none
    canSpawn := (can none, can (some b.thread), can none)
    log := b.thread.log.reverse, left := b.leftOver }

end LocalBench

end Conduit
