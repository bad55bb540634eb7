import Conduit.Pipeline.Dispatch

/-!
# What a Handler Can Do

A handler acts through its context: it fires events at the contexts past it, asks
for actions from there on, and moves data between its own containers and the
next ones. A context that has been unlinked, or whose pipeline is gone, fires
nothing and has its requests refused. Its data still goes where an unlinked
context's data goes, which is past the last handler. What it does set going, it
sees through: its pipeline does not go away meanwhile.

What a handler does not say itself is done by default: pass on every event, with
the data that came with it, and agree to every hook.

## Main definitions

* `World.fireFrom`: Fires an event past a context.
* `World.requestFrom`, `World.writeFrom`: Asks for an action past a context.
* `World.nextInbound`, `World.nextOutbound`: Where data goes next.
* `World.byDefault`: What a handler does by default.
-/

namespace Conduit.World

variable {σ : Type}

/-- The pipeline of a context is still there. -/
def hasPipeline (w : World σ) (c : ContextId) : Bool := w.isKept (w.context c).pipeline

/-- Where inbound data goes past a context. -/
def nextInbound (w : World σ) (c : ContextId) : Place :=
  if w.hasPipeline c then w.inboundTarget (w.context c).pipeline (.after c) else .nowhere

/-- Where outbound data goes past a context. -/
def nextOutbound (w : World σ) (c : ContextId) : Place :=
  if w.hasPipeline c then w.outboundTarget (w.context c).pipeline (.after c) else .nowhere

/-- Moves everything from the inbound container of a context to the next one. -/
def forwardInbound (w : World σ) (c : ContextId) : World σ :=
  if (w.container (.inbound c)).isEmpty then w else w.moveAll (.inbound c) (w.nextInbound c)

/-- Moves everything from the outbound container of a context to the next one. -/
def forwardOutbound (w : World σ) (c : ContextId) : World σ :=
  if (w.container (.outbound c)).isEmpty then w else w.moveAll (.outbound c) (w.nextOutbound c)

/-- Why a context can ask for nothing any more, if it cannot. -/
def refusal (w : World σ) (c : ContextId) : Option Error :=
  if (w.context c).removed then some (.illegalState (.removed (w.context c).name))
  else if w.hasPipeline c then none
  else some (.illegalState (.outlived (w.context c).name))

variable [Journal σ]

/-- Does work for the pipeline of a context, and holds that pipeline until it is done. -/
def executeFor (w : World σ) (call : Caller σ) (c : ContextId) (job : Job) : World σ :=
  let p := (w.context c).pipeline
  ((w.hold (.pipeline p)).execute call p job).release (.pipeline p)

/-- Fires an event past a context. -/
def fireFrom (w : World σ) (call : Caller σ) (c : ContextId) (event : InboundEvent) :
    World σ :=
  let x := w.context c
  if x.removed then w.notice (.removedContext x.name event.kind)
  else if w.hasPipeline c then w.executeFor call c (.fire (.after c) event)
  else w.notice (.outlivedContext x.name event.kind)

/-- Passes a request on past a context. -/
def requestWith (w : World σ) (call : Caller σ) (c : ContextId) (r : Request) : World σ :=
  match w.refusal c with
  | none => w.executeFor call c (.send (.after c) r)
  | some cause => (w.complete call r.promise (.error cause)).2

/-- Asks for an action past a context. -/
def requestFrom (w : World σ) (call : Caller σ) (c : ContextId) (action : Action) :
    PromiseId × World σ :=
  let (f, w) := w.newPromise
  (f, w.requestWith call c ⟨action, f⟩)

/-- Writes a message past a context, and flushes it. -/
def writeFrom (w : World σ) (call : Caller σ) (c : ContextId) (msg : Message) :
    PromiseId × World σ :=
  let (f, w) := w.newPromise
  match w.refusal c with
  | none => (f, w.executeFor call c (.write (.after c) msg f))
  | some cause => (f, (w.complete call f (.error cause)).2)

/-- What a handler does by default: agree, or pass on. -/
def byDefault (w : World σ) (call : Caller σ) (c : ContextId) : Callback → World σ
  | .hook _ => w
  | .inbound .messageUpdated => (w.forwardInbound c).fireFrom call c .messageUpdated
  | .inbound event => w.fireFrom call c event
  | .outbound ⟨.flush, f⟩ => (w.forwardOutbound c).requestWith call c ⟨.flush, f⟩
  | .outbound r => w.requestWith call c r

end Conduit.World
