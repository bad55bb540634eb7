import Conduit.Message

/-!
# Containers

What waits for a handler: loose bytes, which accumulate in one growable buffer,
and message objects, which queue up first in, first out. The two do not mix. A
buffer that is added to a container loses itself among the loose bytes, unless
it is pushed, which queues it as an object like any other.

## Main definitions

* `Container`: Loose bytes and a queue of messages.
* `Container.add`, `Container.push`: Putting a message in.
* `Container.pop`, `Container.popAs`, `Container.drain`: Taking messages out.
* `Container.transferTo`: Moving everything to another container.
-/

namespace Conduit

/-- Loose bytes and a queue of messages. -/
structure Container where
  bytes : Sealed
  messages : List Message := []
  deriving Repr

namespace Container

/-- The room for bytes that a container starts with. -/
def initialCapacity : Nat := 256

/-- An empty container whose bytes form words in the given order. -/
def withOrder (order : ByteOrder) : Container :=
  { bytes := Sealed.growable order initialCapacity }

/-- An empty container. -/
def new : Container := withOrder .big

instance : Inhabited Container := ⟨new⟩

/-- Queues a message object as it is. -/
def push (c : Container) (msg : Message) : Container :=
  { c with messages := c.messages ++ [msg] }

/-- Puts a message in: the bytes of a buffer join the loose bytes, and any other
    message is queued. -/
def add (c : Container) (msg : Message) : Container :=
  match msg with
  | .buffer b => { c with bytes := (b.drainInto c.bytes).2 }
  | msg => c.push msg

/-- Queues several message objects. -/
def pushAll (c : Container) (msgs : List Message) : Container :=
  { c with messages := c.messages ++ msgs }

/-- Takes the oldest message out. -/
def pop (c : Container) : Option Message × Container :=
  match c.messages with
  | [] => (none, c)
  | msg :: rest => (some msg, { c with messages := rest })

/-- Takes the oldest message out if it is of the given kind. -/
def popAs (c : Container) (kind : MessageKind) : Option Message × Container :=
  match c.messages with
  | [] => (none, c)
  | msg :: rest =>
    if msg.kind = kind then (some msg, { c with messages := rest }) else (none, c)

/-- Takes all messages out, oldest first. -/
def drain (c : Container) : List Message × Container :=
  (c.messages, { c with messages := [] })

/-- How many messages are queued. -/
def length (c : Container) : Nat := c.messages.length

/-- There is neither a byte nor a message. -/
def isEmpty (c : Container) : Bool := c.messages.isEmpty && !c.bytes.isReadable

/-- Moves everything from `c` into `other`, bytes first: what is left of `c`, then
    `other`. -/
def transferTo (c other : Container) : Container × Container :=
  let (left, bytes) := c.bytes.drainInto other.bytes
  ({ bytes := left.discardReadBytes, messages := [] },
    { bytes := bytes, messages := other.messages ++ c.messages })

/-- Moves the readable bytes to the front of their buffer. -/
def discardReadBytes (c : Container) : Container :=
  { c with bytes := c.bytes.discardReadBytes }

/-- Drops everything that waits. -/
def clear (c : Container) : Container :=
  { bytes := c.bytes.clear, messages := [] }

/-- A container as a printed structure. -/
def debug (c : Container) : String :=
  s!"MessageBuf \x7b readable_bytes: {c.bytes.readableBytes}, messages: {c.length} \x7d"

end Container

end Conduit
