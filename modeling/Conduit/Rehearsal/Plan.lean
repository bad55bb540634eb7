import Conduit.Pipeline.Response

/-!
# Plans

What a rehearsal consists of, as data. A rehearsal drives pipelines whose
handlers, sinks and listeners follow scripts. Steps are taken from outside the
pipelines, and moves are made by a handler when it is called, on its own context.
A move may take a step, and a step may make moves on a context that was kept, so
the two are defined together.

Contexts, handlers, promises and channels are kept under names.

## Main definitions

* `Move`: One thing that a script does.
* `Step`: One thing that is done from outside.
* `HandlerPlan`, `SinkPlan`: What handlers and sinks do.
-/

namespace Conduit.Rehearsal

/-! ### Sinks -/

/-- What a scripted sink does with a request, besides showing it. -/
structure SinkScript where
  /-- It shows what waits for it, and drops that. -/
  drains : Bool := false
  /-- It keeps the promise under a name, and leaves it at that. -/
  hold : Option String := none
  /-- It fails the promise. -/
  fail : Option Error := none
  /-- It returns an error. -/
  refuse : Option Error := none
  panics : Option Error.Payload := none
  deriving Repr, Inhabited

/-- What a scripted sink does with a failure, besides showing it. -/
structure RemedyScript where
  /-- It does nothing more about it. -/
  swallows : Bool := false
  /-- It returns an error. -/
  refuse : Option Error := none
  panics : Option Error.Payload := none
  deriving Repr, Inhabited

/-- What a scripted sink does. -/
structure SinkPlan where
  requests : List (EventKind × SinkScript) := []
  remedy : RemedyScript := {}
  deriving Repr, Inhabited

/-! ### Steps without moves -/

/-- A way to take a handler out. -/
inductive Removal where
  | named (name : String)
  | first
  | last
  | handler (handler : String)
  deriving Repr, Inhabited

/-- A kind of handler to look for. -/
inductive HandlerKind where
  | script
  | plain
  | text
  | lines
  deriving DecidableEq, Repr, Inhabited

/-- Something to see about a pipeline or a context. -/
inductive Look where
  | names
  | events
  | length
  | named (name : String)
  | first
  | last
  /-- The context with a name, to be kept. -/
  | context (name keep : String)
  | firstContext (keep : String)
  | lastContext (keep : String)
  | contextOf (handler keep : String)
  /-- The scripted handler with a name, or the first one, to be kept. -/
  | grab (name : Option String) (keep : String)
  | ofKind (kind : HandlerKind)
  | debug
  | info (context : String)
  | contextDebug (context : String)
  deriving Repr, Inhabited

/-- A use of the slots of a pipeline or a context. -/
inductive SlotUse where
  | set (key : String) (value : Slot)
  | getText (key : String)
  | getNumber (key : String)
  | remove (key : String)
  | contains (key : String)
  | debug
  deriving Repr, Inhabited

/-- Something that binds pipelines and channels, or lets go of them. -/
inductive Binding where
  | embedded (channel : String)
  /-- A channel that gives its own identity, with a scripted sink or without. -/
  | fixed (channel : String) (identity : Nat) (isOpen isActive : Bool) (sink : Option SinkPlan)
  /-- Attaches the pipeline that a channel was made for to that channel once more. -/
  | attachAgain (channel : String) (sink : SinkPlan)
  | detach
  | status
  | newPipeline
  | dropPipeline
  | dropChannel (channel : String)
  deriving Repr, Inhabited

/-- Something asked of a pipeline. -/
inductive Asking where
  | fire (event : InboundEvent)
  | request (action : Action) (keep : Option String)
  | write (msg : Message) (keep : Option String)
  | feed (msg : Message)
  deriving Repr, Inhabited

/-- A use of the event loop. -/
inductive LoopUse where
  | run (limit : Option Nat)
  | queued
  | enter (inside : Bool)
  | shutdown
  | post (tag : String)
  deriving Repr, Inhabited

/-- A use of the transport of an embedded channel. -/
inductive TransportUse where
  | receive (msg : Message)
  | send (msg : Message) (keep : Option String)
  | take (side : Side) (kind : MessageKind)
  | takeBytes (side : Side)
  | exceptions
  | check
  | userEvents
  | sunk
  | finish
  deriving Repr, Inhabited

/-- A use of a channel. -/
inductive ChannelUse where
  | state
  | write (msg : Message) (keep : Option String)
  | flush (keep : Option String)
  | close (keep : Option String)
  deriving Repr, Inhabited

/-- A use of a promise. -/
inductive PromiseUse where
  | make
  | settled (outcome : Outcome)
  | clone (source : String)
  | settle (outcome : Outcome)
  | state
  | wait
  /-- Waits for a moment. A prompt event loop runs dry in that time. -/
  | waitBriefly
  /-- Waits while somebody else settles it. -/
  | waitWhile (outcome : Outcome)
  | poll (waker : String)
  | closeOn (channel : String) (onlyFailure : Bool)
  | debug
  deriving Repr, Inhabited

/-! ### Moves and steps -/

mutual

/-- One thing that a script does with its context. -/
inductive Move where
  /-- What every handler does by default. -/
  | next
  | fail (cause : Error)
  | panic (payload : Error.Payload)
  | note (text : String)
  | info
  | fire (event : InboundEvent)
  | request (action : Action) (keep : Option String)
  | write (msg : Message) (keep : Option String)
  | forward (side : Side)
  | pop (side : Side)
  | popAs (side : Side) (kind : MessageKind)
  | drain (side : Side)
  | skip (side : Side) (length : Nat)
  | read (side : Side) (length : Nat)
  | discard (side : Side)
  | clear (side : Side)
  | push (side : Side) (msg : Message)
  | add (side : Side) (msg : Message)
  | state (side : Side)
  | nextPush (side : Side) (msg : Message)
  | nextAdd (side : Side) (msg : Message)
  | nextState (side : Side)
  /-- Writes every message that waits. -/
  | echo (side : Side)
  /-- Writes every text that waits, with something around it. -/
  | reply (side : Side) (before after : String)
  /-- Hands on every text that waits, in capitals. -/
  | upper (side : Side)
  | complete (outcome : Outcome)
  | hold (keep : String)
  | step (step : Step)

/-- What a handler does. -/
inductive HandlerPlan where
  | lines (framer : LineFramer)
  | text (order : ByteOrder)
  | plain (events : EventSet)
  | bytewise
  | pairs
  /-- Its moves for each callback: those of the first call, of the second, and so on. The
      last ones are made again and again. -/
  | script (id : String) (events : EventSet) (parts : List (String × List (List Move)))

/-- One thing that is done from outside. -/
inductive Step where
  | add (position : Position) (name : String) (handler : HandlerPlan)
  | replace (old new : String) (handler : HandlerPlan)
  | remove (removal : Removal)
  | look (look : Look)
  | slots (context : Option String) (use : SlotUse)
  | bind (binding : Binding)
  | ask (asking : Asking)
  /-- Asks the sink to close, and hands it a failure, with nobody there to catch a panic. -/
  | callSink (cause : Error) (keep : Option String)
  | loop (use : LoopUse)
  | channel (channel : String) (use : ChannelUse)
  /-- Takes a channel for an embedded one, and panics if it is not. -/
  | transport (channel : String) (use : TransportUse)
  | promise (promise : String) (use : PromiseUse)
  /-- How often each waker was woken. -/
  | wakes
  /-- Adds a listener that takes steps of its own. -/
  | listen (promise id : String) (steps : List Step) (panics : Option Error.Payload)
  /-- Makes moves on a context that was kept. -/
  | visit (context : String) (moves : List Move)

end

instance : Inhabited Move := ⟨.next⟩
instance : Inhabited HandlerPlan := ⟨.bytewise⟩
instance : Inhabited Step := ⟨.wakes⟩

/-- The name under which a step keeps a promise, if it keeps one. -/
def Step.promiseKept : Step → Option String
  | ask (.request _ keep) | ask (.write _ keep) => keep
  | channel _ (.write _ keep) | channel _ (.flush keep) | channel _ (.close keep) => keep
  | transport _ (.send _ keep) => keep
  | _ => none

end Conduit.Rehearsal
