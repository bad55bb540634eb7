import Conduit.Buffer.Snapshot
import Conduit.Framing.Line

/-!
# A Line Framer at Work

Programs that feed bytes to one buffer and cut lines off it with one framer.

## Main definitions

* `LineStep`: What a step does.
* `LineReply`: What a step answers.
* `LineBench.step`: One step.
* `LineBench.run`: A program.
-/

namespace Conduit

/-- A step of a program for a line framer. -/
inductive LineStep where
  /-- Appends bytes to the buffer. -/
  | feed (bytes : Bytes)
  /-- Goes on with a new buffer that holds the given bytes. -/
  | replace (bytes : Bytes)
  /-- Moves the unread bytes to the front. -/
  | discard
  /-- Makes one attempt. -/
  | decode
  /-- Makes attempts until one yields nothing. -/
  | decodeAll
  deriving Repr, Inhabited

/-- What an attempt yielded. -/
inductive LineYield where
  | line (seen : Snapshot)
  | nothing
  | failed (cause : Error)
  deriving Repr, Inhabited

/-- What a step answers. -/
inductive LineReply where
  | done
  | count (n : Nat)
  | one (y : LineYield)
  | all (ys : List LineYield)
  deriving Repr, Inhabited

/-- A framer, and the buffer it works on. -/
structure LineBench where
  framer : LineFramer
  buffer : Buffer
  memory : Memory

namespace LineBench

/-- A framer with an empty buffer. -/
def new (framer : LineFramer) (order : ByteOrder) : LineBench :=
  let (buffer, memory) := Buffer.growable {} order 0
  { framer, buffer, memory }

/-- Makes one attempt. -/
def attempt (w : LineBench) : LineYield × LineBench :=
  let a := w.framer.decode w.buffer w.memory
  (match a.result with
    | .ok (some line) => .line (line.snapshot a.memory)
    | .ok none => .nothing
    | .error cause => .failed cause,
    { framer := a.framer, buffer := a.buffer, memory := a.memory })

/-- Makes attempts until one yields nothing, but no more than `limit`. -/
def attempts (limit : Nat) (w : LineBench) : List LineYield × LineBench :=
  match limit with
  | 0 => ([], w)
  | limit + 1 =>
    match w.attempt with
    | (.nothing, w) => ([], w)
    | (y, w) =>
      let (ys, w) := attempts limit w
      (y :: ys, w)

/-- One step. Every attempt that yields something reads at least one byte, which bounds
    how many a step can make. -/
def step (w : LineBench) : LineStep → LineReply × LineBench
  | .feed bytes =>
    let (n, buffer, memory) := w.buffer.write w.memory bytes
    (.count n, { w with buffer, memory })
  | .replace bytes =>
    let (buffer, memory) := Buffer.copied w.memory w.buffer.order bytes
    (.done, { w with buffer, memory })
  | .discard =>
    let (buffer, memory) := w.buffer.discardReadBytes w.memory
    (.done, { w with buffer, memory })
  | .decode =>
    let (y, w) := w.attempt
    (.one y, w)
  | .decodeAll =>
    let (ys, w) := w.attempts (w.buffer.readableBytes + 1)
    (.all ys, w)

/-- A program: each answer with the bench after it. -/
def run (w : LineBench) : List LineStep → List (LineReply × LineBench)
  | [] => []
  | s :: steps =>
    let (reply, w) := w.step s
    (reply, w) :: run w steps

end LineBench

end Conduit
