import Conduit.Executor.LoopGroup

/-!
# Event Loops at Work

Programs for a group of event loops. Every step is taken on the thread that made
the group, and all loops run dry after it. Tasks record what they find.

Tasks carry labels of any type, and record under them. A task that panics has
recorded so before, and keeps no other task from running. A local task gives way to
others between its turns, by putting itself back at the end of the queue; that is
not a post, so a shutdown does not stop it.

## Main definitions

* `LoopTask`: What a task does.
* `LoopStep`: What a step does.
* `LoopBench.run`: A program.
-/

namespace Conduit

/-- What a task does on its event loop. -/
inductive LoopTask (τ : Type) where
  /-- Records where it runs. -/
  | locate (tag : τ)
  | panic (tag : τ)
  /-- Posts another task. -/
  | outer (tag : τ)
  | inner (tag : τ)
  /-- Shuts its own loop down and posts one more task. -/
  | stop (tag : τ)
  /-- A local task in one of its turns. -/
  | turn (tag : τ) (done left : Nat)
  deriving Repr, Inhabited

/-- How many tasks may come of a task, itself included. -/
def LoopTask.weight {τ : Type} : LoopTask τ → Nat
  | outer _ => 2
  | turn _ _ left => left + 1
  | _ => 1

/-- Where something runs. -/
structure Whereabouts where
  /-- For each loop of the group, whether this is its thread. -/
  inLoop : List Bool
  isMain : Bool
  deriving Repr, Inhabited

/-- Some loop of the group runs on this thread. -/
def Whereabouts.inAnyLoop (w : Whereabouts) : Bool := w.inLoop.any id

/-- What a task records. -/
inductive LoopRecord where
  /-- Where the task runs, if its group is still there. -/
  | located (found : Option Whereabouts)
  | panicking
  | outer
  | inner
  | posted (outcome : Except Error Unit)
  | stopped (isShutdown : Bool) (outcome : Except Error Unit)
  | turn (n : Nat)
  deriving Inhabited

/-- What a step does. -/
inductive LoopStep (τ : Type) where
  | length
  | next
  /-- The number of the next loop. -/
  | nextNumber
  | name (loop : Nat)
  | locate
  | pool (loop : Nat)
  | dropGroup
  | post (loop : Nat) (task : LoopTask τ)
  | isShutdown (loop : Nat)
  | shutdown (loop : Nat)
  | shutdownAll
  deriving Repr, Inhabited

/-- What a step answers. -/
inductive LoopReply where
  | done
  | absent
  | failed (cause : Error)
  | length (n : Nat) (isEmpty : Bool)
  | number (n : Nat)
  | text (text : String)
  | flag (value : Bool)
  | located (found : Whereabouts)
  deriving Inhabited

/-- A group at work, and what was recorded, newest first. -/
structure LoopBench (τ : Type) where
  group : LoopGroup (LoopTask τ)
  /-- Somebody still holds the group. -/
  isHeld : Bool := true
  records : List (τ × LoopRecord) := []

namespace LoopBench

variable {τ : Type}

/-- A group of `size` loops. -/
def new (name : Option String) (size : Nat) : LoopBench τ where
  group := LoopGroup.ofSize (name.getD LoopGroup.defaultName) size

/-- Where the thread of a loop is, or the main thread. -/
def locate (b : LoopBench τ) (loop : Option Nat) : Option Whereabouts :=
  if b.isHeld then
    some
      { inLoop := (List.range b.group.size).map fun i => loop == some i
        isMain := loop.isNone }
  else none

/-- Records something. -/
def record (b : LoopBench τ) (tag : τ) (r : LoopRecord) : LoopBench τ :=
  { b with records := (tag, r) :: b.records }

/-- Posts a task, and says whether it was accepted. -/
def post (b : LoopBench τ) (loop : Nat) (task : LoopTask τ) : Except Error Unit × LoopBench τ :=
  match b.group.post loop task with
  | .ok group => (.ok (), { b with group })
  | .error cause => (.error cause, b)

/-- Puts a task back at the end of the queue of its loop. -/
def putBack (b : LoopBench τ) (loop : Nat) (task : LoopTask τ) : LoopBench τ :=
  match b.group.loop? loop with
  | some l =>
    { b with group := b.group.setQueue loop { l.queue with pending := l.queue.pending ++ [task] } }
  | none => b

/-- Does what a task does, on the thread of its loop. -/
def runTask (b : LoopBench τ) (loop : Nat) : LoopTask τ → LoopBench τ
  | .locate tag => b.record tag (.located (b.locate (some loop)))
  | .panic tag => b.record tag .panicking
  | .outer tag =>
    let (outcome, b) := (b.record tag .outer).post loop (.inner tag)
    b.record tag (.posted outcome)
  | .inner tag => b.record tag .inner
  | .stop tag =>
    let b := { b with group := b.group.shutdown loop }
    let (outcome, b) := b.post loop (.inner tag)
    b.record tag (.stopped (b.group.isShutdown loop) outcome)
  | .turn tag _ 0 => b.record tag (.located (b.locate (some loop)))
  | .turn tag n (left + 1) =>
    (b.record tag (.turn n)).putBack loop (.turn tag (n + 1) left)

/-- How many tasks may still come of the queue of a loop. -/
def weight (b : LoopBench τ) (loop : Nat) : Nat :=
  match b.group.loop? loop with
  | some l => l.queue.pending.foldr (fun task total => task.weight + total) 0
  | none => 0

/-- Runs at most `limit` tasks of a loop. -/
def runLoop (loop : Nat) : (limit : Nat) → LoopBench τ → LoopBench τ
  | 0, b => b
  | limit + 1, b =>
    match (b.group.loop? loop).bind (·.queue.take?) with
    | none => b
    | some (task, queue) =>
      runLoop loop limit (runTask { b with group := b.group.setQueue loop queue } loop task)

/-- Runs all loops dry, one after the other. -/
def runDry (b : LoopBench τ) : LoopBench τ :=
  (List.range b.group.size).foldl (fun b loop => runLoop loop (b.weight loop) b) b

/-- Does something that needs the group. -/
def withGroup (b : LoopBench τ) (f : LoopGroup (LoopTask τ) → LoopReply × LoopGroup (LoopTask τ)) :
    LoopReply × LoopBench τ :=
  if b.isHeld then
    let (reply, group) := f b.group
    (reply, { b with group })
  else (.absent, b)

/-- The name of a loop. -/
def nameReply (g : LoopGroup (LoopTask τ)) (loop : Nat) : LoopReply :=
  match g.loop? loop with
  | some l => .text l.name
  | none => .absent

/-- One step, before the loops run. -/
def step (b : LoopBench τ) : LoopStep τ → LoopReply × LoopBench τ
  | .length => b.withGroup fun g => (.length g.size (g.size == 0), g)
  | .next => b.withGroup fun g => let (n, g) := g.next; (nameReply g n, g)
  | .nextNumber => b.withGroup fun g => let (n, g) := g.next; (.number n, g)
  | .name loop => (nameReply b.group loop, b)
  | .locate =>
    (match b.locate none with
      | some found => .located found
      | none => .absent, b)
  | .pool _ => b.withGroup fun g => (.number g.size, g)
  | .dropGroup => (.done, { b with isHeld := false })
  | .post loop task =>
    match b.post loop task with
    | (.ok _, b) => (.done, b)
    | (.error cause, b) => (.failed cause, b)
  | .isShutdown loop => (.flag (b.group.isShutdown loop), b)
  | .shutdown loop => (.done, { b with group := b.group.shutdown loop })
  | .shutdownAll =>
    -- Without its group a loop is left as it is.
    (.done, if b.isHeld then { b with group := b.group.shutdownAll } else b)

/-- A program: each answer with what was recorded until the loops had run dry. -/
def run (b : LoopBench τ) : List (LoopStep τ) → List (LoopReply × List (τ × LoopRecord))
  | [] => []
  | s :: steps =>
    let (reply, b) := b.step s
    let b := b.runDry
    (reply, b.records.reverse) :: run { b with records := [] } steps

end LoopBench

end Conduit
