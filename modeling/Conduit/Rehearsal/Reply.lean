import Conduit.Pipeline.Response
import Conduit.Script.Containers

/-!
# Replies and Traces

What a rehearsal shows: a reply to every step, and everything that happened in
between, in order.

## Main definitions

* `Reply`: What a step answers, or a move shows.
* `Misstep`: Why a step has no reply.
* `Answer`: What a step comes to.
* `Entry`: Something that happened.
-/

namespace Conduit.Rehearsal

/-- What can be seen of a context. -/
structure ContextView where
  name : String
  events : EventSet
  removed : Bool
  hasPipeline : Bool
  hasChannel : Bool
  inLoop : Bool
  deriving Repr, Inhabited

/-- What can be seen of a channel. -/
structure ChannelView where
  isOpen : Bool
  isActive : Bool
  /-- Nothing here holds writers back as long as the channel is active. -/
  isWritable : Bool := isActive
  localAddress : Option Address
  remoteAddress : Option Address
  /-- No channel here was accepted by another one. -/
  hasParent : Bool := false
  /-- The channel that its pipeline is attached to is this one, if there is one. -/
  isAttached : Option Bool
  deriving Repr, Inhabited

/-- What can be seen of the attachment of a pipeline. -/
structure StatusView where
  isAttached : Bool
  hasChannel : Bool
  inLoop : Bool
  sinkBuffer : ContainerView
  deriving Repr, Inhabited

/-- What a step answers, or a move shows. -/
inductive Reply where
  | done
  | pending
  | absent
  | failed (cause : Error)
  | flag (value : Bool)
  | number (value : Nat)
  | text (value : String)
  | message (msg : Message)
  | bytes (content : Excerpt)
  | buffer (seen : Snapshot)
  | container (seen : ContainerView)
  | context (seen : ContextView)
  | channel (seen : ChannelView)
  | status (seen : StatusView)
  | promise (outcome : Option Outcome)
  /-- How often each waker was woken. -/
  | wakes (counts : List (String × Nat))
  | list (items : List Reply)
  deriving Inhabited

namespace Reply

/-- The outcome of a promise, if there is one yet. -/
def ofOutcome? : Option Outcome → Reply
  | none => .pending
  | some (.ok ()) => .done
  | some (.error cause) => .failed cause

def ofOutcome (outcome : Outcome) : Reply := ofOutcome? (some outcome)

/-- A value that may be missing. -/
def ofOption {α : Type} (f : α → Reply) : Option α → Reply
  | some a => f a
  | none => .absent

/-- The bits of an event set. -/
def events (set : EventSet) : Reply := .number set.bits.toNat

def texts (items : List String) : Reply := .list (items.map .text)

def messages (msgs : List Message) : Reply := .list (msgs.map .message)

def noPipeline : Reply := .text "no pipeline"

def noChannel : Reply := .text "no channel"

end Reply

/-- Why a step cannot be taken. The fault is the script's and not the library's, so no reply
    tells of it: the step panics. -/
inductive Misstep where
  /-- It names a context that nobody kept. -/
  | unknownContext
  /-- It names a handler that nobody kept. -/
  | unknownHandler
  /-- It names a promise that nobody kept. -/
  | unknownPromise
  /-- It takes a channel for an embedded one. -/
  | notEmbedded
  deriving DecidableEq, Repr, Inhabited

/-- What a misstep says. -/
def Misstep.message : Misstep → String
  | unknownContext => "no context"
  | unknownHandler => "no handler"
  | unknownPromise => "no future"
  | notEmbedded => "not an embedded channel"

/-- What a step comes to: a reply, or the panic that it ends in. -/
abbrev Answer := Except Error Reply

/-- The panic that a misstep ends in. -/
def Misstep.answer (m : Misstep) : Answer := .error (.ofPanic (.text m.message))

/-- What came with a call. -/
inductive Detail where
  | nothing
  | cause (cause : Error)
  | message (msg : Message)
  | address (address : Address)
  | addresses (remote : Address) (origin : Option Address)
  deriving Repr, Inhabited

/-- What comes with a callback. -/
def Detail.ofCallback : Callback → Detail
  | .inbound (.exceptionCaught e) => .cause e
  | .inbound (.userEventTriggered msg) => .message msg
  | .outbound ⟨.bind target, _⟩ => .address target
  | .outbound ⟨.connect remote origin, _⟩ => .addresses remote origin
  | _ => .nothing

/-- Something that happened. -/
inductive Entry where
  /-- A scripted handler was called. -/
  | called (id callback : String) (detail : Detail)
  /-- A script made a move that shows something. -/
  | moved (id move : String) (shown : Reply)
  | noticed (notice : Notice)
  /-- A request reached a scripted sink. -/
  | sunk (action : Action) (waiting : ContainerView)
  /-- A scripted sink took what waited for it. -/
  | drained (bytes : Bytes) (msgs : List Message)
  | sinkFailed (cause : Error)
  | heard (id : String) (outcome : Option Outcome)
  | ran (tag : String)
  deriving Inhabited

end Conduit.Rehearsal
