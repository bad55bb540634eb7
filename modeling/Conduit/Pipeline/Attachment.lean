import Conduit.Pipeline.Dispatch

/-!
# Attaching a Pipeline

A pipeline is attached to at most one channel at a time. The channel lends it an
event loop, and a sink that carries its requests out. Detaching takes both back
and forgets how far the channel had come to life, so that another channel starts
afresh.

A pipeline that is not attached has a sink all the same, which refuses every
request and drops the data that came with it.

## Main definitions

* `World.attach`, `World.detach`: Binding and unbinding.
* `World.sameChannel`: Two channels have one identity.
* `World.refuse`: What the refusing sink does.
-/

namespace Conduit.World

variable {σ : Type}

/-- Adds a channel to the world. Whoever made it holds it. -/
def newChannel (w : World σ) (ch : Channel) : ChannelId × World σ :=
  let number := w.channels.length
  (number, { w with channels := w.channels ++ [ch], held := .channel number :: w.held })

/-- Attaches a pipeline to a channel, if it is not attached yet. -/
def attach (w : World σ) (p : PipelineId) (ch : ChannelId) (sink : Sink) : Outcome × World σ :=
  match (w.pipeline p).attachment with
  | some _ => (.error (.illegalState .alreadyAttached), w)
  | none =>
    let attachment := { channel := ch, sink, loop := (w.channel ch).loop }
    (.ok (), w.updatePipeline p ({ · with attachment := some attachment }))

/-- Detaches a pipeline, if it is attached. -/
def detach (w : World σ) (p : PipelineId) : World σ :=
  match (w.pipeline p).attachment with
  | some _ =>
    (w.mark p .detached).updatePipeline p ({ · with attachment := none, activation := {} })
  | none => w

/-- The channel that a pipeline is attached to, if somebody still holds it. -/
def channelOf (w : World σ) (p : PipelineId) : Option ChannelId :=
  match (w.pipeline p).attachment with
  | some a => if w.isHeld a.channel then some a.channel else none
  | none => none

/-- Two channels have one identity. Those that give their own may share it. -/
def sameChannel (w : World σ) (a b : ChannelId) : Bool :=
  match (w.channel a).backing, (w.channel b).backing with
  | .fixed m _ _, .fixed n _ _ => m == n
  | _, _ => a == b

/-- A channel lets data through. -/
def isOpen (w : World σ) (ch : ChannelId) : Bool :=
  match (w.channel ch).backing with
  | .embedded t => (w.transport t).isOpen
  | .fixed _ isOpen _ => isOpen

/-- A channel is connected. -/
def isActive (w : World σ) (ch : ChannelId) : Bool :=
  match (w.channel ch).backing with
  | .embedded t => (w.transport t).isActive
  | .fixed _ _ isActive => isActive

/-- The local address of a channel. -/
def localAddress (w : World σ) (ch : ChannelId) : Option Address :=
  match (w.channel ch).backing with
  | .embedded t => (w.transport t).localAddress
  | .fixed .. => none

/-- The remote address of a channel. -/
def remoteAddress (w : World σ) (ch : ChannelId) : Option Address :=
  match (w.channel ch).backing with
  | .embedded t => (w.transport t).remoteAddress
  | .fixed .. => none

/-- What the sink of a pipeline without a channel does: it drops what waits for the
    sink and fails the request. It has no remedy for a failure. -/
def refuse [Journal σ] (w : World σ) (call : Caller σ) (p : PipelineId) :
    SinkCall → Outcome × World σ
  | .sunk r =>
    let w := (w.updateContainer (.sink p) (·.clear)).notice (.notAttached r.kind)
    (.ok (), (w.complete call r.promise (.error (.noHandler r.kind.name))).2)
  | .exceptionCaught cause => (.error cause, w)

end Conduit.World
