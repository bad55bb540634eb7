import Conduit.Framing.Decoder
import Conduit.Framing.TextFrame
import Conduit.Pipeline.Context

/-!
# Codecs in a Pipeline

Handlers that turn bytes into messages on the way in, and messages into bytes on
the way out. A codec takes what waits for it, hands the result to the next
handler, and announces it if there is any. What it could not decode it reports
last, when the rest is on its way.

## Main definitions

* `World.handOn`: Hands messages to the next inbound handler.
* `World.decodeInbound`, `World.decodeRest`: A decoder on the inbound side.
* `World.textInbound`, `World.textOutbound`: Text frames on both sides.
-/

namespace Conduit.World

variable {σ δ : Type} [Journal σ]

/-- Queues messages for the next inbound handler and announces them, if there are any. -/
def handOn (w : World σ) (call : Caller σ) (c : ContextId) (msgs : List Message) : World σ :=
  if msgs.isEmpty then w
  else (w.updateContainer (w.nextInbound c) (·.pushAll msgs)).fireFrom call c .messageUpdated

/-- Runs a decoder over the loose bytes that wait for a context. Messages that wait
    beside them pass through first. `keep` stores the state of the decoder. -/
def decodeLoose (w : World σ) (call : Caller σ) (c : ContextId) (d : Decoder δ) (state : δ)
    (keep : δ → World σ → World σ) (atEnd : Bool) : Ending × World σ :=
  let (queued, own) := (w.container (.inbound c)).drain
  let r := d.decodeAll atEnd state own.bytes
  let own := { own with bytes := r.left }
  -- The announcement may come back to this decoder, so its state is stored before that.
  let w := keep r.state (r.notices.foldl notice (w.setContainer (.inbound c) own))
  match r.ending with
  -- What was queued and what was decoded is lost together.
  | .panicked _ => (r.ending, w)
  | _ => (r.ending, w.handOn call c (queued ++ r.messages))

/-- Decodes what has arrived for a context. -/
def decodeInbound (w : World σ) (call : Caller σ) (c : ContextId) (d : Decoder δ) (state : δ)
    (keep : δ → World σ → World σ) : Outcome × World σ :=
  let (ending, w) := w.decodeLoose call c d state keep false
  (ending.outcome, w)

/-- Decodes what is left for a context when the channel goes inactive, and passes that
    event on. -/
def decodeRest (w : World σ) (call : Caller σ) (c : ContextId) (d : Decoder δ) (state : δ)
    (keep : δ → World σ → World σ) : Outcome × World σ :=
  match w.decodeLoose call c d state keep true with
  | (.panicked cause, w) => (.error cause, w)
  | (ending, w) => (ending.outcome, w.fireFrom call c .channelInactive)

/-- A decoder as a handler. -/
def decoderCalled (w : World σ) (call : Caller σ) (c : ContextId) (d : Decoder δ) (state : δ)
    (keep : δ → World σ → World σ) : Callback → Outcome × World σ
  | .inbound .messageUpdated => w.decodeInbound call c d state keep
  | .inbound .channelInactive => w.decodeRest call c d state keep
  | callback => (.ok (), w.byDefault call c callback)

/-- Turns the frames that wait for a context into text and hands them on. The first
    frame that is not text is reported after that. -/
def textInbound (w : World σ) (call : Caller σ) (c : ContextId) : Outcome × World σ :=
  let (decoded, fault, own) := TextFrame.decodeContainer (w.container (.inbound c))
  let w := (w.setContainer (.inbound c) own).handOn call c decoded
  match fault with
  | none => (.ok (), w)
  | some cause => (.error cause, w)

/-- Turns the text that waits for a context into bytes for the next outbound handler,
    and passes the request on. -/
def textOutbound (w : World σ) (call : Caller σ) (c : ContextId) (order : ByteOrder)
    (f : PromiseId) : World σ :=
  let target := w.nextOutbound c
  let (own, next) := TextFrame.encodeAll order (w.container (.outbound c)) (w.container target)
  ((w.setContainer (.outbound c) own).setContainer target next).requestWith call c ⟨.flush, f⟩

/-- Text frames as a handler. -/
def textCalled (w : World σ) (call : Caller σ) (c : ContextId) (order : ByteOrder) :
    Callback → Outcome × World σ
  | .inbound .messageUpdated => w.textInbound call c
  | .outbound ⟨.flush, f⟩ => (.ok (), w.textOutbound call c order f)
  | callback => (.ok (), w.byDefault call c callback)

end Conduit.World
