import Conduit.Pipeline.World

/-!
# Dispatch

How an event finds its handler, and what happens when the handler fails.

An inbound event goes to the first context, from where it starts towards the
tail, that handles its kind. Going on from there is the handler's business. A
handler that fails is heard of: `exception_caught` is fired at its own context,
wrapped so that it says which event and which handler. A failure while
`exception_caught` itself is delivered is only noted, so reporting a failure
cannot set off another report from the same place.

A request goes the other way, and past the last handler it reaches the sink. A
handler or sink that fails settles the promise of the request.

## Main definitions

* `World.complete`: Keeps a promise and tells those who wait for it.
* `World.fireNow`: Delivers an inbound event.
* `World.raise`: Delivers `exception_caught`.
* `World.start`: Delivers a pulse from the head on.
* `World.sendNow`: Delivers a request.
* `World.runJob`: Does work for a pipeline.
* `World.execute`: Does it now, or has the event loop do it.
-/

namespace Conduit.World

variable {σ : Type} [Journal σ]

/-! ### Promises -/

/-- Tells a listener that its promise is settled. -/
def tell (w : World σ) (call : Caller σ) (l : Listener) (f : PromiseId) : World σ :=
  match call (.listener l f) w with
  | (.ok _, w) => w
  | (.error _, w) => w.notice .listenerPanicked

/-- Keeps a promise: wakes the sleepers, then tells the listeners in the order in which
    they came. False, and nothing else, if it was settled before. -/
def complete (w : World σ) (call : Caller σ) (f : PromiseId) (outcome : Outcome) :
    Bool × World σ :=
  match (w.promise f).keep outcome with
  | none => (false, w)
  | some (wakers, listeners, p) =>
    let w := w.setPromise f p
    let w := { w with woken := wakers.reverse ++ w.woken }
    (true, listeners.foldl (fun w l => w.tell call l f) w)

/-- Adds a listener to a promise, or tells it at once if the promise is settled. -/
def listen (w : World σ) (call : Caller σ) (f : PromiseId) (l : Listener) : World σ :=
  match (w.promise f).listen l with
  | some p => w.setPromise f p
  | none => w.tell call l f

/-! ### Inbound -/

/-- An event that came in where no handler is inbound. -/
def unheard (w : World σ) (p : PipelineId) (kind : EventKind) : World σ :=
  let w := w.notice (.noInboundHandlers kind)
  if kind = .messageUpdated then w.updateContainer (.tail p) (·.clear) else w

/-- An event past the last handler that could take it. Data that came with it is
    dropped. -/
def fellOff (w : World σ) (p : PipelineId) (event : InboundEvent) : World σ :=
  match event with
  | .exceptionCaught cause => w.notice (.exceptionReachedTail cause)
  | .messageUpdated =>
    let tail := w.container (.tail p)
    if tail.isEmpty then w
    else
      (w.notice (.tailDiscarded tail.bytes.readableBytes tail.length)).setContainer (.tail p)
        tail.clear
  | _ => w

/-- Delivers an event to its target from a cursor on. If the target fails, `failed` says
    what comes of it. -/
def dispatch (w : World σ) (call : Caller σ) (p : PipelineId) (cursor : Cursor)
    (event : InboundEvent) (failed : ContextId → Error → World σ → World σ) : World σ :=
  if cursor = .start ∧ (w.chain p).hasInbound = false then w.unheard p event.kind
  else
    match (w.chain p).findInbound cursor event.kind with
    | none => w.fellOff p event
    | some c =>
      match call (.handler c (.inbound event)) w with
      | (.ok _, w) => w
      | (.error cause, w) => failed c cause w

/-- Delivers `exception_caught` from a cursor on. A handler that fails over it is noted
    and not reported again. -/
def raise (w : World σ) (call : Caller σ) (p : PipelineId) (cursor : Cursor) (cause : Error) :
    World σ :=
  w.dispatch call p cursor (.exceptionCaught cause) fun c cause w =>
    w.notice (.exceptionHandlerFailed (w.context c).name cause)

/-- Reports that the handler of a context failed over an event, from that context on. -/
def reportFailure (w : World σ) (call : Caller σ) (p : PipelineId) (c : ContextId)
    (kind : EventKind) (cause : Error) : World σ :=
  w.raise call p (.at c) (.handler kind (w.context c).name cause)

/-- Delivers an inbound event from a cursor on, on the calling thread. -/
def fireNow (w : World σ) (call : Caller σ) (p : PipelineId) (cursor : Cursor)
    (event : InboundEvent) : World σ :=
  match event with
  | .exceptionCaught cause => w.raise call p cursor cause
  | .messageUpdated =>
    w.dispatch call p cursor .messageUpdated fun c cause w =>
      (w.updateContainer (.inbound c) (·.discardReadBytes)).reportFailure call p c
        .messageUpdated cause
  | event =>
    w.dispatch call p cursor event fun c cause w => w.reportFailure call p c event.kind cause

/-! ### Outbound -/

/-- A request past the last handler that could take it. -/
def sinkRequest (w : World σ) (call : Caller σ) (p : PipelineId) (r : Request) : World σ :=
  let sink := w.sinkOf p
  match call (.sink p sink (.sunk r)) w with
  | (.ok _, w) => w
  | (.error cause, w) =>
    let (_, w) := w.complete call r.promise (.error cause)
    -- The sink may know a remedy. What it fails with counts, not what it failed with before.
    match call (.sink p sink (.exceptionCaught cause)) w with
    | (.ok _, w) => w
    | (.error cause, w) =>
      (w.notice (.sinkFailed r.kind cause)).raise call p .start cause

/-- Delivers a request from a cursor on, on the calling thread. -/
def sendNow (w : World σ) (call : Caller σ) (p : PipelineId) (cursor : Cursor) (r : Request) :
    World σ :=
  match (w.chain p).findOutbound cursor r.kind with
  | none => w.sinkRequest call p r
  | some c =>
    match call (.handler c (.outbound r)) w with
    | (.ok _, w) => w
    | (.error cause, w) =>
      -- What a failed flush has read is gone; what it has not read stays for the next one.
      let w :=
        if r.kind = .flush then w.updateContainer (.outbound c) (·.discardReadBytes) else w
      let (_, w) := w.complete call r.promise (.error cause)
      w.reportFailure call p c r.kind cause

/-! ### Coming to life -/

/-- Dispatches a pulse at the head, and takes down when that starts and when it is done. -/
def start (w : World σ) (call : Caller σ) (p : PipelineId) (e : Pulse) : World σ :=
  ((w.mark p (.started e)).fireNow call p .start e.event).mark p (.finished e)

/-- The channel is active, unless it has not been opened: then that has to wait. Data
    that was announced in the meantime is announced again. -/
def activeNow (w : World σ) (call : Caller σ) (p : PipelineId) : World σ :=
  if (w.pipeline p).activation.opened then
    let w := w.updateActivation p ({ · with active := true })
    let w := w.start call p .activated
    -- The handlers may have announced data themselves, or closed the channel by now.
    let replay := (w.pipeline p).activation.pendingUpdate
    let w := w.updateActivation p ({ · with pendingUpdate := false })
    if replay then w.start call p .updated else w
  else (w.notice .activeBeforeOpen).updateActivation p ({ · with pendingActive := true })

/-- The channel is open, and active too if that has been waiting. -/
def openNow (w : World σ) (call : Caller σ) (p : PipelineId) : World σ :=
  let pending := (w.pipeline p).activation.pendingActive
  let w := w.updateActivation p ({ · with opened := true, pendingActive := false })
  let w := w.start call p .opened
  if pending then w.activeNow call p else w

/-- The channel is no longer active. -/
def inactiveNow (w : World σ) (call : Caller σ) (p : PipelineId) : World σ :=
  (w.updateActivation p ({ · with active := false })).start call p .deactivated

/-- New data is waiting. Before the channel is active that has to wait. -/
def updatedNow (w : World σ) (call : Caller σ) (p : PipelineId) : World σ :=
  if (w.pipeline p).activation.active then w.start call p .updated
  else w.updateActivation p ({ · with pendingUpdate := true })

/-! ### Jobs -/

/-- Does work for a pipeline, on the calling thread. -/
def runJob (w : World σ) (call : Caller σ) (p : PipelineId) : Job → World σ
  | .open => (w.mark p (.fired .opened)).openNow call p
  | .active => (w.mark p (.fired .activated)).activeNow call p
  | .inactive => (w.mark p (.fired .deactivated)).inactiveNow call p
  | .updated => (w.mark p (.fired .updated)).updatedNow call p
  | .fire cursor event => w.fireNow call p cursor event
  | .feed msg => w.updateContainer (w.inboundTarget p .start) (·.add msg)
  | .send cursor r => w.sendNow call p cursor r
  | .write cursor msg promise =>
    (w.updateContainer (w.outboundTarget p cursor) (·.add msg)).sendNow call p cursor
      ⟨.flush, promise⟩

/-- Does work for a pipeline: at once on the thread of its event loop, and otherwise by
    posting it there. If the loop refuses it, the promise that it would have settled
    fails; where there is none, that is noted. -/
def execute (w : World σ) (call : Caller σ) (p : PipelineId) (job : Job) : World σ :=
  if w.inLoop (w.loopOf p) then w.runJob call p job
  else
    match w.queue.post (.pipeline p job) with
    | .ok queue => { w with queue }
    | .error cause =>
      match job.promise? with
      | some f => (w.complete call f (.error cause)).2
      | none => w.notice (.notPosted cause)

/-! ### What can be asked of a pipeline -/

/-- Fires an inbound event at the head. The events that have to do with coming to life
    take their turn. -/
def fire (w : World σ) (call : Caller σ) (p : PipelineId) (event : InboundEvent) : World σ :=
  w.execute call p <|
    match event with
    | .channelOpen => .open
    | .channelActive => .active
    | .channelInactive => .inactive
    | .messageUpdated => .updated
    | event => .fire .start event

/-- Adds a message to the first inbound container, without announcing it. -/
def feed (w : World σ) (call : Caller σ) (p : PipelineId) (msg : Message) : World σ :=
  w.execute call p (.feed msg)

/-- Asks something of the channel, from the tail of the pipeline. -/
def request (w : World σ) (call : Caller σ) (p : PipelineId) (action : Action) :
    PromiseId × World σ :=
  let (f, w) := w.newPromise
  (f, w.execute call p (.send .start ⟨action, f⟩))

/-- Writes a message at the tail of the pipeline, and flushes it. -/
def write (w : World σ) (call : Caller σ) (p : PipelineId) (msg : Message) :
    PromiseId × World σ :=
  let (f, w) := w.newPromise
  (f, w.execute call p (.write .start msg f))

end Conduit.World
