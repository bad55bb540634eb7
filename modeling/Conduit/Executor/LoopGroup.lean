import Conduit.Executor.TaskQueue

/-!
# Groups of Event Loops

Event loops that share the work between them. Each has a thread and a queue of
its own; the group gives them numbered names and hands them out in turn. A loop
outlives its group.

The loops stand in a ring, and counting goes on around it. So every number means
a loop, and whose turn it is follows from how often a loop was handed out.

## Main definitions

* `EventLoop`: A name and a queue.
* `LoopGroup`: Event loops, and how often one was handed out.
* `LoopGroup.ofSize`: A group of so many loops.
* `LoopGroup.place`: Which loop a number means.
* `LoopGroup.next`: Whose turn it is.
-/

namespace Conduit

/-- An event loop: the name of its thread, and the tasks that wait for it. -/
structure EventLoop (τ : Type) where
  name : String
  queue : TaskQueue τ := {}
  deriving Repr, Inhabited

/-- Event loops that share the work between them. -/
structure LoopGroup (τ : Type) where
  loops : List (EventLoop τ)
  /-- How often a loop was handed out. -/
  handedOut : Nat := 0
  deriving Repr, Inhabited

namespace LoopGroup

variable {τ : Type}

/-- The name of a group that is not given one. -/
def defaultName : String := "rivet-loop"

/-- A group of `size` loops, and of one if that is none. -/
def ofSize (name : String) (size : Nat) : LoopGroup τ where
  loops := (List.range (max size 1)).map fun i => { name := s!"{name}-{i}" }

/-- How many loops there are. -/
def size (g : LoopGroup τ) : Nat := g.loops.length

/-- The place in the ring that counting from the first loop leads to. -/
def place (g : LoopGroup τ) (n : Nat) : Nat := n % g.size

/-- The number of the loop whose turn it is, and the group after it was handed out. -/
def next (g : LoopGroup τ) : Nat × LoopGroup τ :=
  (g.place g.handedOut, { g with handedOut := g.handedOut + 1 })

/-- The loop that a number means, if there are loops at all. -/
def loop? (g : LoopGroup τ) (n : Nat) : Option (EventLoop τ) := g.loops[g.place n]?

/-- The group with the queue of a loop replaced. -/
def setQueue (g : LoopGroup τ) (n : Nat) (queue : TaskQueue τ) : LoopGroup τ :=
  { g with loops := g.loops.modify (g.place n) ({ · with queue := queue }) }

/-- Posts a task to a loop. A group without loops accepts nothing. -/
def post (g : LoopGroup τ) (n : Nat) (task : τ) : Except Error (LoopGroup τ) :=
  match g.loop? n with
  | none => .error .closed
  | some l =>
    match l.queue.post task with
    | .ok queue => .ok (g.setQueue n queue)
    | .error cause => .error cause

/-- Whether a loop has been shut down. -/
def isShutdown (g : LoopGroup τ) (n : Nat) : Bool :=
  match g.loop? n with
  | some l => l.queue.isShutdown
  | none => true

/-- Shuts a loop down. -/
def shutdown (g : LoopGroup τ) (n : Nat) : LoopGroup τ :=
  { g with loops := g.loops.modify (g.place n) fun l => { l with queue := l.queue.shutdown } }

/-- Shuts all loops down. -/
def shutdownAll (g : LoopGroup τ) : LoopGroup τ :=
  { g with loops := g.loops.map fun l => { l with queue := l.queue.shutdown } }

end LoopGroup

end Conduit
