import Conduit.Error

/-!
# Local Tasks

Tasks that share one thread and give way to each other of their own accord. A
task is a list of bursts. A burst runs undisturbed and leaves some entries in the
log; between two bursts the task has given way.

The thread works in rounds. In a round every task that is ready runs one burst,
up to a limit, and those that gave way become ready again for the next round.
Between rounds it is the turn of the main program, which is not itself a task:
waiting, for it, means letting rounds go by. There is a limit to its turns too:
it takes so many results in one turn, and then has to let a round go by.

A task ends with a value or by a panic, or it is cancelled, which only takes hold
between bursts. A task that was cancelled keeps its place among those that are
ready, and its next burst, which does nothing, counts like any other.

## Main definitions

* `TaskError`: Why a task has no value.
* `LocalTask`: What is left of a task.
* `LocalThread`: Tasks, those that are ready, and the log.
* `LocalThread.spawn`, `LocalThread.cancel`: Tasks come and go.
* `LocalThread.round`, `LocalThread.await`: The thread at work.
-/

namespace Conduit

/-- Why a task has no value. -/
inductive TaskError where
  | cancelled
  | panicked (cause : Error)
  deriving DecidableEq, Repr, Inhabited

namespace TaskError

/-- What a task error says. -/
def message : TaskError → String
  | cancelled => "task was cancelled"
  | panicked cause => s!"task panicked: {cause.message}"

/-- A task error as an error of the library. A task that was cancelled has lost its
    channel. -/
def toError : TaskError → Error
  | cancelled => .closed
  | panicked cause => cause

def isCancelled : TaskError → Bool
  | cancelled => true
  | panicked _ => false

def isPanic : TaskError → Bool
  | cancelled => false
  | panicked _ => true

end TaskError

/-- What is left of a task: what its bursts log, and how it ends. -/
structure LocalTask (ε α : Type) where
  bursts : List (List ε)
  result : Except TaskError α

/-- How far a task has come. -/
inductive LocalState (ε α : Type) where
  | underWay (rest : LocalTask ε α)
  | finished (result : Except TaskError α)

/-- Tasks that share one thread. -/
structure LocalThread (ε α : Type) where
  /-- The tasks, by their numbers. -/
  tasks : List (LocalState ε α) := []
  /-- The numbers of the tasks that are ready, in the order in which they will run. -/
  ready : List Nat := []
  /-- The numbers of those that gave way in this round, in order. -/
  resting : List Nat := []
  /-- How many results the main program has taken in its turn. -/
  taken : Nat := 0
  /-- What was logged, newest first. -/
  log : List ε := []

namespace LocalThread

variable {ε α : Type}

/-- What a program is told that spawns a task where no thread could run it. -/
def homeless : Error.Payload := .text "`spawn_local()` must be called from a tokio `LocalSet`"

/-- Adds to the log. -/
def record (t : LocalThread ε α) (entry : ε) : LocalThread ε α := { t with log := entry :: t.log }

/-- Adds a task, which is ready at once. -/
def spawn (t : LocalThread ε α) (task : LocalTask ε α) : Nat × LocalThread ε α :=
  (t.tasks.length,
    { t with tasks := t.tasks ++ [.underWay task], ready := t.ready ++ [t.tasks.length] })

/-- Adds a task to the current thread, or panics if the current thread is none that runs
    local tasks. -/
def spawnOn (current : Option (LocalThread ε α)) (task : LocalTask ε α) :
    Except Error.Payload (Nat × LocalThread ε α) :=
  match current with
  | some t => .ok (t.spawn task)
  | none => .error homeless

/-- The result of a task, if it has ended. -/
def result? (t : LocalThread ε α) (n : Nat) : Option (Except TaskError α) :=
  match t.tasks[n]? with
  | some (.finished result) => some result
  | _ => none

def isFinished (t : LocalThread ε α) (n : Nat) : Bool := (t.result? n).isSome

/-- Cancels a task, unless it has ended. -/
def cancel (t : LocalThread ε α) (n : Nat) : LocalThread ε α :=
  { t with
    tasks := t.tasks.modify n fun
      | .underWay _ => .finished (.error .cancelled)
      | state => state }

/-- Cancels all tasks that have not ended. -/
def cancelAll (t : LocalThread ε α) : LocalThread ε α :=
  (List.range t.tasks.length).foldl cancel t

/-- Runs one burst of a task. After the last one the task has ended, and a task that has
    ended does nothing. -/
def burst (t : LocalThread ε α) (n : Nat) : LocalThread ε α :=
  match t.tasks[n]? with
  | some (.underWay ⟨[], result⟩) => { t with tasks := t.tasks.set n (.finished result) }
  | some (.underWay ⟨[last], result⟩) =>
    { t with tasks := t.tasks.set n (.finished result), log := last.reverse ++ t.log }
  | some (.underWay ⟨entries :: rest, result⟩) =>
    { t with
      tasks := t.tasks.set n (.underWay ⟨rest, result⟩)
      resting := t.resting ++ [n]
      log := entries.reverse ++ t.log }
  | _ => t

/-- The most bursts that run in one round. -/
def roundLimit : Nat := 61

/-- Runs one burst of each ready task in turn, at most `limit` of them. -/
def runReady : (limit : Nat) → LocalThread ε α → LocalThread ε α
  | 0, t => t
  | limit + 1, t =>
    match t.ready with
    | [] => t
    | n :: ready => runReady limit (burst { t with ready } n)

/-- One round: ready tasks run, and those that gave way are ready again. After it the
    main program has a new turn. -/
def round (t : LocalThread ε α) : LocalThread ε α :=
  let t := runReady roundLimit t
  { t with ready := t.ready ++ t.resting, resting := [], taken := 0 }

/-- How many bursts are left of all tasks. A task without any counts for one. -/
def burstsLeft (t : LocalThread ε α) : Nat :=
  t.tasks.foldr
    (fun task left =>
      match task with
      | .underWay rest => max rest.bursts.length 1 + left
      | .finished _ => left)
    0

/-- Lets rounds go by, at most `limit`, until a task has ended. -/
def awaitUpTo (n : Nat) : (limit : Nat) → LocalThread ε α → LocalThread ε α
  | 0, t => t
  | limit + 1, t => if t.isFinished n then t else awaitUpTo n limit t.round

/-- The most results that the main program takes in one turn. -/
def turnLimit : Nat := 128

/-- Lets a round go by if the main program has taken all the results that it may take in
    one turn. -/
def yieldIfSpent (t : LocalThread ε α) : LocalThread ε α :=
  if t.taken < turnLimit then t else t.round

/-- Lets rounds go by until a task has ended, and takes its result. Every round runs at
    least one of the bursts that are left, or one that does nothing. -/
def await (t : LocalThread ε α) (n : Nat) : LocalThread ε α :=
  let t := t.yieldIfSpent
  let t := awaitUpTo n (t.ready.length + t.burstsLeft) t
  { t with taken := t.taken + 1 }

end LocalThread

end Conduit
