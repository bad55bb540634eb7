import Conduit.Error

/-!
# Promises

The outcome of a request, before and after it is known. A promise is kept at most
once. Until then it gathers what waits for it: listeners, which are to be told in
the order in which they came, and wakers, one for each task that polled and went
to sleep.

Telling them is not done here, because listeners run code of their own; `keep`
hands them out.

## Main definitions

* `Outcome`: Success, or the error.
* `Listener`: What is to be told.
* `Promise`: An outcome to come.
* `Promise.keep`: Settles the outcome.
* `Promise.listen`, `Promise.poll`: Waiting for it.
-/

namespace Conduit

/-- Success, or the error. -/
abbrev Outcome := Except Error Unit

/-- The number of a promise. -/
abbrev PromiseId := Nat

/-- The number of a channel. -/
abbrev ChannelId := Nat

/-- The number of a waker; wakers of one task have one number. -/
abbrev WakerId := Nat

/-- What is to be told about an outcome. -/
inductive Listener where
  /-- A listener of the library's user. -/
  | custom (tag : Nat)
  /-- Closes a channel whatever the outcome. -/
  | closeOnComplete (channel : ChannelId)
  /-- Closes a channel if the outcome is an error. -/
  | closeOnFailure (channel : ChannelId)
  deriving DecidableEq, Repr, Inhabited

/-- An outcome to come, and what waits for it. -/
structure Promise where
  outcome : Option Outcome := none
  listeners : List Listener := []
  wakers : List WakerId := []

namespace Promise

instance : Inhabited Promise := ⟨{}⟩

def isDone (p : Promise) : Bool := p.outcome.isSome

def isSuccess (p : Promise) : Bool :=
  match p.outcome with
  | some (.ok ()) => true
  | _ => false

/-- The error, if that is the outcome. -/
def cause (p : Promise) : Option Error :=
  match p.outcome with
  | some (.error cause) => some cause
  | _ => none

/-- Settles the outcome and hands out what waited for it; nothing if it was settled. -/
def keep (p : Promise) (outcome : Outcome) : Option (List WakerId × List Listener × Promise) :=
  match p.outcome with
  | some _ => none
  | none => some (p.wakers, p.listeners, { outcome := some outcome })

/-- Adds a listener, or nothing if the outcome is settled and the listener is due. -/
def listen (p : Promise) (l : Listener) : Option Promise :=
  match p.outcome with
  | some _ => none
  | none => some { p with listeners := p.listeners ++ [l] }

/-- The outcome if it is settled; otherwise the waker is remembered, once. -/
def poll (p : Promise) (waker : WakerId) : Option Outcome × Promise :=
  match p.outcome with
  | some outcome => (some outcome, p)
  | none =>
    if waker ∈ p.wakers then (none, p) else (none, { p with wakers := p.wakers ++ [waker] })

/-- An outcome in the notation of nested constructors. -/
def debugOutcome : Option Outcome → String
  | none => "None"
  | some (.ok ()) => "Some(Ok(()))"
  | some (.error cause) => s!"Some(Err({cause.debug}))"

/-- A promise as a printed structure. -/
def debug (p : Promise) : String :=
  s!"ChannelFuture \x7b outcome: {debugOutcome p.outcome}, " ++
    s!"listeners: {p.listeners.length} \x7d"

end Promise

end Conduit
