import Conduit.Pipeline.Attachment
import Conduit.Pipeline.Mutation

/-!
# Embedded Channels

A channel whose transport is whoever drives the pipeline. A collector at the tail
keeps what reaches the end of the inbound side, and the sink carries every
request out at once and keeps what was flushed. Both sides can be read back.

The collector is added before the pipeline is attached, and it stays where it is
if the pipeline turns out to be attached already.

## Main definitions

* `World.openEmbedded`: Puts an embedded channel on a pipeline.
* `World.collect`: What the collector does.
* `World.carryOut`: What the sink does.
* `World.take`, `World.takeBytes`: Reading back.
* `World.finish`: Closes the channel.
-/

namespace Conduit

/-- The name under which the collector is added. -/
def Handler.collectorName : String := "embedded-last-inbound"

/-- The collector of a transport. -/
def Handler.collector (t : TransportId) : Handler where
  typeName := "rivet::embedded::LastInbound"
  events := EventSet.inbound
  role := .collector t

/-- The side of a transport. -/
inductive Side where
  | inbound
  | outbound
  deriving DecidableEq, Repr, Inhabited

/-- What a transport keeps of one side. -/
def Transport.kept (t : Transport) : Side → Container
  | .inbound => t.inbound
  | .outbound => t.outbound

/-- A transport with another content on one side. -/
def Transport.keep (t : Transport) (side : Side) (c : Container) : Transport :=
  match side with
  | .inbound => { t with inbound := c }
  | .outbound => { t with outbound := c }

namespace World

variable {σ : Type} [Journal σ]

/-- Adds a transport to the world. -/
def newTransport (w : World σ) : TransportId × World σ :=
  (w.transports.length, { w with transports := w.transports ++ [{}] })

/-- Puts an embedded channel on a pipeline and brings it to life. Whoever asked for it
    holds it. -/
def openEmbedded (w : World σ) (call : Caller σ) (p : PipelineId) (loop : LoopKind) :
    Except Error ChannelId × World σ :=
  let (t, w) := w.newTransport
  match w.add call p .last Handler.collectorName (Handler.collector t) with
  | (.error cause, w) => (.error cause, w)
  | (.ok _, w) =>
    let (ch, w) := w.newChannel { pipeline := p, loop, backing := .embedded t }
    match w.attach p ch (.embedded t) with
    | (.error cause, w) => (.error cause, w.release (.channel ch))
    | (.ok _, w) => (.ok ch, (w.fire call p .channelOpen).fire call p .channelActive)

/-! ### The ends of the pipeline -/

/-- Moves everything that waits at a place into a transport. -/
def deliver (w : World σ) (source : Place) (t : TransportId) (side : Side) : World σ :=
  let (left, kept) := (w.container source).transferTo ((w.transport t).kept side)
  (w.setContainer source left).updateTransport t (·.keep side kept)

/-- What the collector of a transport does: it keeps everything and passes nothing on. -/
def collect (w : World σ) (c : ContextId) (t : TransportId) : InboundEvent → World σ
  | .channelOpen | .channelActive | .channelInactive => w
  | .exceptionCaught cause =>
    w.updateTransport t fun x => { x with exceptions := x.exceptions ++ [cause] }
  | .userEventTriggered event =>
    w.updateTransport t fun x => { x with userEvents := x.userEvents ++ [event] }
  | .messageUpdated => w.deliver (.inbound c) t .inbound

/-- Ends the life of a transport. Whoever still took it for active is told. -/
def hangUp (w : World σ) (call : Caller σ) (p : PipelineId) (t : TransportId)
    (f : PromiseId) : World σ :=
  let wasActive := (w.transport t).isActive
  let w := w.updateTransport t ({ · with isActive := false, isOpen := false })
  -- Listeners hear of it before the handlers do.
  let (_, w) := w.complete call f (.ok ())
  if wasActive then w.fire call p .channelInactive else w

/-- Carries a request out on a transport, which always succeeds. -/
def perform (w : World σ) (call : Caller σ) (p : PipelineId) (t : TransportId) (r : Request) :
    World σ :=
  let w := w.updateTransport t fun x => { x with sunk := x.sunk ++ [r.kind] }
  match r.action with
  | .bind address =>
    let w := w.updateTransport t ({ · with localAddress := some address })
    (w.complete call r.promise (.ok ())).2
  | .connect remote origin =>
    let w := w.updateTransport t fun x =>
      { x with remoteAddress := some remote, localAddress := origin <|> x.localAddress }
    (w.complete call r.promise (.ok ())).2
  | .disconnect | .close => w.hangUp call p t r.promise
  | .flush => ((w.deliver (.sink p) t .outbound).complete call r.promise (.ok ())).2

/-- What the sink of an embedded channel does. A failure is reported at the head. -/
def carryOut (w : World σ) (call : Caller σ) (p : PipelineId) (t : TransportId) :
    SinkCall → World σ
  | .sunk r => w.perform call p t r
  | .exceptionCaught cause => w.fire call p (.exceptionCaught cause)

/-! ### Driving the channel -/

/-- Feeds a message into a pipeline and announces it. -/
def receive (w : World σ) (call : Caller σ) (p : PipelineId) (msg : Message) : World σ :=
  (w.feed call p msg).fire call p .messageUpdated

/-- Takes the oldest message of a kind that a transport keeps, if that is the oldest. -/
def take (w : World σ) (t : TransportId) (side : Side) (kind : MessageKind) :
    Option Message × World σ :=
  let (msg, rest) := ((w.transport t).kept side).popAs kind
  (msg, w.updateTransport t (·.keep side rest))

/-- Takes all bytes that a transport keeps. -/
def takeBytes (w : World σ) (t : TransportId) (side : Side) : Sealed × World σ :=
  let kept := (w.transport t).kept side
  match kept.bytes.readBytes kept.bytes.readableBytes with
  | .error _ => ({}, w)
  | .ok (taken, rest) =>
    (taken, w.updateTransport t (·.keep side { kept with bytes := rest.discardReadBytes }))

/-- Takes the errors that a transport keeps. -/
def takeExceptions (w : World σ) (t : TransportId) : List Error × World σ :=
  ((w.transport t).exceptions, w.updateTransport t ({ · with exceptions := [] }))

/-- Takes the errors that a transport keeps, and fails with the first of them. -/
def checkException (w : World σ) (t : TransportId) : Outcome × World σ :=
  match w.takeExceptions t with
  | ([], w) => (.ok (), w)
  | (cause :: _, w) => (.error cause, w)

/-- Takes the user events that a transport keeps. -/
def takeUserEvents (w : World σ) (t : TransportId) : List Message × World σ :=
  ((w.transport t).userEvents, w.updateTransport t ({ · with userEvents := [] }))

/-- Closes the channel of a pipeline. True if something is left to read. -/
def finish (w : World σ) (call : Caller σ) (p : PipelineId) (t : TransportId) :
    Bool × World σ :=
  let (_, w) := w.request call p .close
  let x := w.transport t
  (!x.inbound.isEmpty || !x.outbound.isEmpty, w)

end World

end Conduit
