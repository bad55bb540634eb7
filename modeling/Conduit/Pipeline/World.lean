import Conduit.Address
import Conduit.Container
import Conduit.Executor.TaskQueue
import Conduit.Framing.Line
import Conduit.Pipeline.Chain
import Conduit.Promise

/-!
# Worlds

Everything that pipelines can see and change, as one value: the pipelines with
their contexts, the channels they are attached to, the promises made, and the
tasks that wait for the event loop.

Handlers are called from deep within the library and call back into it. The
library therefore does not call them; it is given a `Caller`, which answers an
`Upcall` by changing the world. Everything in the library that dispatches events
takes the caller as an argument, so what it says about a run holds whatever the
handlers do. A world also carries a value of the user's own type for what the
library knows nothing of, such as the state of handlers; the library only writes
its notices there.

Contexts and pipelines know of a pipeline or channel only as long as somebody
holds it. Whoever sets work going through a reference that may be the last one
holds what it refers to until the work is done.

## Main definitions

* `InboundEvent`, `Request`, `Callback`: What reaches a handler.
* `Pulse`, `Mark`: What a channel goes through.
* `Handler`: Something that reacts to events.
* `Context`: A handler's place in a pipeline.
* `Pipeline`: A chain, the data at its ends, and its attachment to a channel.
* `Channel`, `Transport`: What a pipeline is attached to.
* `World`: All of it.
* `Holding`: What has to be held so that it stays.
* `Upcall`, `Caller`: How code outside the library is reached.
* `Place`: Where a container is.
-/

namespace Conduit

/-- The number of a pipeline. -/
abbrev PipelineId := Nat

/-- The number of a transport. -/
abbrev TransportId := Nat

/-! ### Events -/

/-- Something to report to the handlers of a pipeline. -/
inductive InboundEvent where
  | channelOpen
  | channelActive
  | channelInactive
  | exceptionCaught (cause : Error)
  | userEventTriggered (event : Message)
  | messageUpdated
  deriving Repr, Inhabited

/-- The kind of a report. -/
def InboundEvent.kind : InboundEvent → EventKind
  | channelOpen => .channelOpen
  | channelActive => .channelActive
  | channelInactive => .channelInactive
  | exceptionCaught _ => .exceptionCaught
  | userEventTriggered _ => .userEventTriggered
  | messageUpdated => .messageUpdated

/-- An event that tells how far a channel has come to life. A pipeline may put it off. -/
inductive Pulse where
  | opened
  | activated
  | deactivated
  | updated
  deriving DecidableEq, Repr, Inhabited

/-- What a pulse is reported as. -/
def Pulse.event : Pulse → InboundEvent
  | opened => .channelOpen
  | activated => .channelActive
  | deactivated => .channelInactive
  | updated => .messageUpdated

/-- Something in the life of a channel. -/
inductive Mark where
  /-- A pulse is fired. -/
  | fired (e : Pulse)
  /-- A pulse is dispatched at the head. -/
  | started (e : Pulse)
  /-- That dispatch has come to its end. -/
  | finished (e : Pulse)
  /-- The pipeline is detached. -/
  | detached
  deriving DecidableEq, Repr, Inhabited

/-- Something to ask of a channel. -/
inductive Action where
  | bind (address : Address)
  /-- Connects to a remote address, from a local one if that is given. -/
  | connect (remote : Address) (origin : Option Address)
  | disconnect
  | close
  /-- Passes on the data that waits at the end of the pipeline. -/
  | flush
  deriving DecidableEq, Repr, Inhabited

namespace Action

/-- The kind of an action. -/
def kind : Action → EventKind
  | bind _ => .bind
  | connect _ _ => .connect
  | disconnect => .disconnect
  | close => .close
  | flush => .flush

/-- An action as a printed call. -/
def debug : Action → String
  | bind address => s!"bind({address.text})"
  | connect remote (some address) => s!"connect({remote.text}, {address.text})"
  | connect remote none => s!"connect({remote.text})"
  | action => action.kind.name

end Action

/-- An action, and the promise of its outcome. -/
structure Request where
  action : Action
  promise : PromiseId
  deriving DecidableEq, Repr, Inhabited

/-- The kind of a request. -/
def Request.kind (r : Request) : EventKind := r.action.kind

/-- What a handler can be called for. -/
inductive Callback where
  | hook (hook : Hook)
  | inbound (event : InboundEvent)
  | outbound (request : Request)
  deriving Repr, Inhabited

/-- The written name of a callback. -/
def Callback.name : Callback → String
  | hook h => h.name
  | inbound event => event.kind.name
  | outbound request => request.kind.name

/-! ### Contexts and pipelines -/

/-- A value kept under a name for somebody else. -/
inductive Slot where
  | text (value : String)
  | number (value : UInt32)
  deriving DecidableEq, Repr, Inhabited

/-- What a handler does when it is called. -/
inductive Role where
  /-- Only what every handler does by default. -/
  | passive
  /-- Cuts inbound bytes into lines. -/
  | lines (framer : LineFramer)
  /-- Turns bytes into text and back. -/
  | text (order : ByteOrder)
  /-- Collects for a transport what reaches the end of the inbound side. -/
  | collector (transport : TransportId)
  /-- Something of the user's. -/
  | custom (tag : Nat)
  deriving DecidableEq, Repr, Inhabited

/-- Something that reacts to events. -/
structure Handler where
  /-- The name of the handler's type. -/
  typeName : String
  /-- The kinds that the handler asks to see. -/
  events : EventSet
  role : Role
  deriving DecidableEq, Repr, Inhabited

/-- A handler's place in a pipeline, with the data that waits for it. -/
structure Context where
  pipeline : PipelineId
  name : String
  handler : Handler
  inbound : Container := Container.new
  outbound : Container := Container.new
  slots : Dict String Slot := []
  /-- The context has been unlinked. -/
  removed : Bool := false
  deriving Inhabited

/-- The transport end of a pipeline. -/
inductive Sink where
  /-- Refuses everything. -/
  | discarding
  /-- Carries everything out on an embedded transport. -/
  | embedded (transport : TransportId)
  /-- Something of the user's. -/
  | custom (tag : Nat)
  deriving DecidableEq, Repr, Inhabited

/-- The event loop on which something runs. -/
inductive LoopKind where
  /-- At once, on the calling thread. -/
  | inline
  /-- On the thread of the world's task queue. -/
  | queued
  deriving DecidableEq, Repr, Inhabited

/-- What binds a pipeline to a channel. -/
structure Attachment where
  channel : ChannelId
  sink : Sink
  loop : LoopKind
  deriving DecidableEq, Repr, Inhabited

/-- How far the channel of a pipeline has come to life. -/
structure Activation where
  /-- `channel_open` has been fired. -/
  opened : Bool := false
  /-- `channel_active` has been fired, and no `channel_inactive` since. -/
  active : Bool := false
  /-- `channel_active` waits for `channel_open`. -/
  pendingActive : Bool := false
  /-- `message_updated` waits for `channel_active`. -/
  pendingUpdate : Bool := false
  deriving DecidableEq, Repr, Inhabited

/-- A chain of handlers, the data at both of its ends, and its attachment. -/
structure Pipeline where
  chain : Chain := {}
  attachment : Option Attachment := none
  activation : Activation := {}
  /-- What moved past the last inbound handler. -/
  tailBuffer : Container := Container.new
  /-- What moved past the last outbound handler, for the sink. -/
  sinkBuffer : Container := Container.new
  slots : Dict String Slot := []
  deriving Inhabited

/-! ### Channels -/

/-- A transport that keeps what it is given. -/
structure Transport where
  isOpen : Bool := true
  isActive : Bool := true
  inbound : Container := Container.new
  outbound : Container := Container.new
  exceptions : List Error := []
  userEvents : List Message := []
  /-- The kinds of the requests that reached the sink. -/
  sunk : List EventKind := []
  localAddress : Option Address := none
  remoteAddress : Option Address := none
  deriving Inhabited

/-- What is behind a channel. -/
inductive Backing where
  | embedded (transport : TransportId)
  /-- Nothing: the channel only gives its identity, and whether it is open and active. -/
  | fixed (identity : Nat) (isOpen isActive : Bool)
  deriving DecidableEq, Repr, Inhabited

/-- A transport endpoint and its pipeline. -/
structure Channel where
  pipeline : PipelineId
  loop : LoopKind
  backing : Backing
  deriving DecidableEq, Repr, Inhabited

/-- Something that stays as long as somebody holds it. -/
inductive Holding where
  | pipeline (id : PipelineId)
  /-- A channel, and with it its pipeline. -/
  | channel (id : ChannelId)
  deriving DecidableEq, Repr, Inhabited

/-! ### Tasks -/

/-- Work for a pipeline. -/
inductive Job where
  | open
  | active
  | inactive
  | updated
  | fire (cursor : Cursor) (event : InboundEvent)
  /-- Adds a message to the first inbound container. -/
  | feed (msg : Message)
  | send (cursor : Cursor) (request : Request)
  /-- Adds a message to the next outbound container and flushes it. -/
  | write (cursor : Cursor) (msg : Message) (promise : PromiseId)
  deriving Inhabited

/-- The promise that a job settles in the end, if it settles one. -/
def Job.promise? : Job → Option PromiseId
  | send _ r => some r.promise
  | write _ _ promise => some promise
  | _ => none

/-- Work for the event loop. -/
inductive Task where
  | pipeline (id : PipelineId) (job : Job)
  /-- Something of the user's. -/
  | custom (tag : Nat)
  deriving Inhabited

/-- A task that waits holds the pipeline that it is for. -/
def Task.holds (p : PipelineId) : Task → Bool
  | pipeline id _ => id == p
  | custom _ => false

/-! ### Worlds -/

/-- Where the library's notices go. -/
class Journal (σ : Type) where
  record : Notice → σ → σ

/-- Everything that pipelines can see and change. -/
structure World (σ : Type) where
  pipelines : List Pipeline := []
  contexts : List Context := []
  channels : List Channel := []
  transports : List Transport := []
  promises : List Promise := []
  queue : TaskQueue Task := {}
  /-- What is held, apart from the pipelines of tasks that wait, once for each holder. -/
  held : List Holding := []
  /-- The calling thread is that of the task queue. -/
  inQueueThread : Bool := false
  /-- The wakers that were woken, newest first. -/
  woken : List WakerId := []
  /-- The lives of the channels so far, oldest mark first. Nothing in the library reads them,
      and nobody outside can change them: they are there to be told of. -/
  annals : List (PipelineId × Mark) := []
  user : σ

/-- What a sink is called for. -/
inductive SinkCall where
  | sunk (request : Request)
  | exceptionCaught (cause : Error)
  deriving Repr, Inhabited

/-- A call from within the library to code that is not part of a dispatch. -/
inductive Upcall where
  | handler (context : ContextId) (callback : Callback)
  | sink (pipeline : PipelineId) (sink : Sink) (call : SinkCall)
  | listener (listener : Listener) (promise : PromiseId)
  | task (tag : Nat)
  deriving Inhabited

/-- What answers the calls from within the library. A panic counts as an error. -/
abbrev Caller (σ : Type) := Upcall → World σ → Outcome × World σ

/-- Where a container is. -/
inductive Place where
  | inbound (context : ContextId)
  | outbound (context : ContextId)
  | tail (pipeline : PipelineId)
  | sink (pipeline : PipelineId)
  /-- A container that nobody keeps. -/
  | nowhere
  deriving DecidableEq, Repr, Inhabited

namespace World

variable {σ : Type}

def context (w : World σ) (c : ContextId) : Context := (w.contexts[c]?).getD default

def pipeline (w : World σ) (p : PipelineId) : Pipeline := (w.pipelines[p]?).getD default

def channel (w : World σ) (ch : ChannelId) : Channel := (w.channels[ch]?).getD default

def transport (w : World σ) (t : TransportId) : Transport := (w.transports[t]?).getD default

def promise (w : World σ) (f : PromiseId) : Promise := (w.promises[f]?).getD default

def updateContext (w : World σ) (c : ContextId) (f : Context → Context) : World σ :=
  { w with contexts := w.contexts.modify c f }

def updatePipeline (w : World σ) (p : PipelineId) (f : Pipeline → Pipeline) : World σ :=
  { w with pipelines := w.pipelines.modify p f }

def updateTransport (w : World σ) (t : TransportId) (f : Transport → Transport) : World σ :=
  { w with transports := w.transports.modify t f }

def setPromise (w : World σ) (f : PromiseId) (p : Promise) : World σ :=
  { w with promises := w.promises.set f p }

/-- The chain of a pipeline. -/
def chain (w : World σ) (p : PipelineId) : Chain := (w.pipeline p).chain

def setChain (w : World σ) (p : PipelineId) (chain : Chain) : World σ :=
  w.updatePipeline p ({ · with chain := chain })

def updateActivation (w : World σ) (p : PipelineId) (f : Activation → Activation) : World σ :=
  w.updatePipeline p fun pl => { pl with activation := f pl.activation }

/-- One more holder. -/
def hold (w : World σ) (h : Holding) : World σ := { w with held := h :: w.held }

/-- One holder less. -/
def release (w : World σ) (h : Holding) : World σ := { w with held := w.held.erase h }

/-- The pipeline that stays because something is held. -/
def pipelineKept (w : World σ) : Holding → PipelineId
  | .pipeline p => p
  | .channel ch => (w.channel ch).pipeline

/-- Somebody still holds a channel. -/
def isHeld (w : World σ) (ch : ChannelId) : Bool := w.held.contains (.channel ch)

/-- Somebody still holds a pipeline: directly, or by a channel of it, or by a task that
    waits. -/
def isKept (w : World σ) (p : PipelineId) : Bool :=
  w.held.any (w.pipelineKept · == p) || w.queue.pending.any (·.holds p)

/-- Reports something. -/
def notice [Journal σ] (w : World σ) (n : Notice) : World σ :=
  { w with user := Journal.record n w.user }

/-- Takes down what happens to a pipeline in the life of its channel. -/
def mark (w : World σ) (p : PipelineId) (m : Mark) : World σ :=
  { w with annals := w.annals ++ [(p, m)] }

/-- The life of the channel of a pipeline. -/
def marks (w : World σ) (p : PipelineId) : List Mark :=
  w.annals.filterMap fun (q, m) => if q = p then some m else none

/-- Makes a promise. -/
def newPromise (w : World σ) : PromiseId × World σ :=
  (w.promises.length, { w with promises := w.promises ++ [{}] })

/-- The container at a place. -/
def container (w : World σ) : Place → Container
  | .inbound c => (w.context c).inbound
  | .outbound c => (w.context c).outbound
  | .tail p => (w.pipeline p).tailBuffer
  | .sink p => (w.pipeline p).sinkBuffer
  | .nowhere => Container.new

/-- The world with another container at a place. -/
def setContainer (w : World σ) (place : Place) (x : Container) : World σ :=
  match place with
  | .inbound c => w.updateContext c ({ · with inbound := x })
  | .outbound c => w.updateContext c ({ · with outbound := x })
  | .tail p => w.updatePipeline p ({ · with tailBuffer := x })
  | .sink p => w.updatePipeline p ({ · with sinkBuffer := x })
  | .nowhere => w

/-- The world with the container at a place changed. -/
def updateContainer (w : World σ) (place : Place) (f : Container → Container) : World σ :=
  w.setContainer place (f (w.container place))

/-- Moves everything from one place to another. -/
def moveAll (w : World σ) (source target : Place) : World σ :=
  let (left, filled) := (w.container source).transferTo (w.container target)
  (w.setContainer source left).setContainer target filled

/-- The sink of a pipeline: the one it is attached to, or one that refuses everything. -/
def sinkOf (w : World σ) (p : PipelineId) : Sink :=
  match (w.pipeline p).attachment with
  | some a => a.sink
  | none => .discarding

/-- The event loop of a pipeline: that of its channel, or none. -/
def loopOf (w : World σ) (p : PipelineId) : LoopKind :=
  match (w.pipeline p).attachment with
  | some a => a.loop
  | none => .inline

/-- The calling thread is that of an event loop. -/
def inLoop (w : World σ) : LoopKind → Bool
  | .inline => true
  | .queued => w.inQueueThread

/-- Where data goes that an event from a cursor on would find, inbound. -/
def inboundTarget (w : World σ) (p : PipelineId) (cursor : Cursor) : Place :=
  match (w.chain p).findInbound cursor .messageUpdated with
  | some c => .inbound c
  | none => .tail p

/-- Where data goes that an event from a cursor on would find, outbound. -/
def outboundTarget (w : World σ) (p : PipelineId) (cursor : Cursor) : Place :=
  match (w.chain p).findOutbound cursor .flush with
  | some c => .outbound c
  | none => .sink p

end World

end Conduit
