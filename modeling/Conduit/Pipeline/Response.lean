import Conduit.Pipeline.Codec
import Conduit.Pipeline.Embedded

/-!
# Responses

Who answers when the library calls. Its own handlers, sinks and listeners are
answered here. What the user has brought is passed to the user's own caller,
which is handed the means to call back in.

That makes a knot: handlers call the library, which calls handlers. It is tied by
depth. A caller of some depth answers with the help of the caller one less deep,
and the one of depth zero refuses. Nothing but an endless recursion gets there
when the depth is large.

## Main definitions

* `World.answer`: Answers a call.
* `World.respond`: The knot, tied.
-/

namespace Conduit.World

variable {σ : Type}

variable [Journal σ]

/-- What a handler does when it is called. -/
def handlerCalled (w : World σ) (call user : Caller σ) (c : ContextId) (callback : Callback) :
    Outcome × World σ :=
  match (w.context c).handler.role with
  | .passive => (.ok (), w.byDefault call c callback)
  | .lines framer =>
    w.decoderCalled call c Decoder.lines framer
      (fun framer w =>
        w.updateContext c fun x => { x with handler := { x.handler with role := .lines framer } })
      callback
  | .text order => w.textCalled call c order callback
  | .collector t =>
    match callback with
    | .inbound event => (.ok (), w.collect c t event)
    | callback => (.ok (), w.byDefault call c callback)
  | .custom _ => user (.handler c callback) w

/-- What a sink does when it is called. -/
def sinkCalled (w : World σ) (call user : Caller σ) (p : PipelineId) (sink : Sink)
    (ask : SinkCall) : Outcome × World σ :=
  match sink with
  | .discarding => w.refuse call p ask
  | .embedded t => (.ok (), w.carryOut call p t ask)
  | .custom _ => user (.sink p sink ask) w

/-- Closes a channel, if somebody still holds it, and holds it until that is done. -/
def closeChannel (w : World σ) (call : Caller σ) (ch : ChannelId) : World σ :=
  if w.isHeld ch then
    let (_, w) := (w.hold (.channel ch)).request call (w.channel ch).pipeline .close
    w.release (.channel ch)
  else w

/-- What a listener does when its promise is settled. -/
def listenerCalled (w : World σ) (call user : Caller σ) (l : Listener) (f : PromiseId) :
    Outcome × World σ :=
  match l with
  | .closeOnComplete ch => (.ok (), w.closeChannel call ch)
  | .closeOnFailure ch =>
    (.ok (), if (w.promise f).cause.isSome then w.closeChannel call ch else w)
  | .custom _ => user (.listener l f) w

/-- Answers a call, with `call` for the calls that come of it. -/
def answer (call user : Caller σ) : Caller σ
  | .handler c callback, w => w.handlerCalled call user c callback
  | .sink p sink ask, w => w.sinkCalled call user p sink ask
  | .listener l f, w => w.listenerCalled call user l f
  | .task tag, w => user (.task tag) w

/-- The refusal of a call that is nested too deeply. -/
def tooDeep : Error := .unknown "calls are nested too deeply"

/-- Answers a call with calls nested at most `depth` deep. The user's part is given the
    caller for the calls that come of it. -/
def respond (user : Caller σ → Caller σ) : (depth : Nat) → Caller σ
  | 0, _, w => (.error tooDeep, w)
  | depth + 1, upcall, w => answer (respond user depth) (user (respond user depth)) upcall w

end Conduit.World
