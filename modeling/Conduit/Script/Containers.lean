import Conduit.Container

/-!
# Containers at Work

Programs over named containers.

## Main definitions

* `ContainerUse`: What a step does with a container.
* `ContainerReply`: What a step answers.
* `ContainerBench.step`: One step.
* `ContainerBench.run`: A program.
-/

namespace Conduit

/-- What can be seen of a container. -/
structure ContainerView where
  bytes : Snapshot
  length : Nat
  isEmpty : Bool
  deriving Repr, Inhabited

/-- What can be seen of a container now. -/
def Container.view (c : Container) : ContainerView :=
  ⟨c.bytes.snapshot, c.length, c.isEmpty⟩

/-- What a step does with a container. -/
inductive ContainerUse where
  | make (order : ByteOrder)
  | add (msg : Message)
  | push (msg : Message)
  | pop
  | popAs (kind : MessageKind)
  | drain
  /-- Takes all messages out and answers the first few of them. -/
  | drainSome (n : Nat)
  | transferTo (target : String)
  | discardReadBytes
  | clear
  | debug
  | write (bytes : Bytes)
  | skip (length : Nat)
  | markReader
  | resetReader
  /-- Reads a word of two bytes. -/
  | readShort
  deriving Repr, Inhabited

/-- What a step answers. -/
inductive ContainerReply where
  | done
  | failed (cause : Error)
  | count (n : Nat)
  | message (msg : Option Message)
  | messages (msgs : List Message)
  | view (v : ContainerView)
  | text (text : String)
  deriving Repr, Inhabited

/-- Named containers. -/
abbrev ContainerBench := List (String × Container)

namespace ContainerBench

/-- The container with a name; a new one if there is none. -/
def get (w : ContainerBench) (name : String) : Container :=
  (w.lookup name).getD Container.new

/-- The containers with one stored under a name. -/
def put (w : ContainerBench) (name : String) (c : Container) : ContainerBench :=
  (name, c) :: w.filter (·.1 != name)

/-- An operation on the loose bytes that may fail. -/
def onBytes (c : Container) (result : Except Error Sealed) : ContainerReply × Container :=
  match result with
  | .ok bytes => (.done, { c with bytes })
  | .error cause => (.failed cause, c)

/-- What a use of one container answers, and the container afterwards. -/
def useOne (c : Container) : ContainerUse → ContainerReply × Container
  | .make order => (.done, Container.withOrder order)
  | .add msg => (.done, c.add msg)
  | .push msg => (.done, c.push msg)
  | .pop => let (msg, c) := c.pop; (.message msg, c)
  | .popAs kind => let (msg, c) := c.popAs kind; (.message msg, c)
  | .drain => let (msgs, c) := c.drain; (.messages msgs, c)
  | .drainSome n => let (msgs, c) := c.drain; (.messages (msgs.take n), c)
  | .discardReadBytes => (.done, c.discardReadBytes)
  | .clear => (.done, c.clear)
  | .debug => (.text c.debug, c)
  | .write bytes => let (n, bytes) := c.bytes.write bytes; (.count n, { c with bytes })
  | .skip length => onBytes c (c.bytes.skip length)
  | .markReader => (.done, { c with bytes := c.bytes.markReader })
  | .resetReader => onBytes c c.bytes.resetReader
  | .readShort => let (v, bytes) := c.bytes.readWord 2; (.count v.toNat, { c with bytes })
  | .transferTo _ => (.done, c)

/-- One step on the container with a name. -/
def step (w : ContainerBench) (name : String) : ContainerUse → ContainerReply × ContainerBench
  | .transferTo target =>
    let (c, other) := (w.get name).transferTo (w.get target)
    (.view other.view, (w.put name c).put target other)
  | use =>
    let (reply, c) := useOne (w.get name) use
    (reply, w.put name c)

/-- A program: each answer with the container it worked on. -/
def run (w : ContainerBench) : List (String × ContainerUse) → List (ContainerReply × ContainerView)
  | [] => []
  | (name, use) :: steps =>
    let (reply, w) := w.step name use
    (reply, (w.get name).view) :: run w steps

end ContainerBench

end Conduit
