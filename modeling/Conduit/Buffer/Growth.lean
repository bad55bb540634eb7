import Conduit.Buffer.Basic

/-!
# Making Room

Growth and compaction: the two ways in which a buffer finds room for more bytes.

A buffer that grows takes a new cell of its own and copies its bytes there, so
it stops sharing with the buffers it was made from. Compaction moves the
readable bytes to the front and takes the marks along. It reads all of them
before it writes any, so it is right even where source and target overlap.

## Main definitions

* `Writability`: What came of a request for room.
* `Buffer.ensureWritable`: Asks for room, growing if it must.
* `Buffer.ensureWritableBytes`: The same, failing when there is no room.
* `Buffer.discardReadBytes`: Moves the readable bytes to the front.
-/

namespace Conduit

/-- What came of a request for room. -/
inductive Writability where
  /-- There was room already. -/
  | sufficient
  /-- The buffer grew and the request fits. -/
  | grew
  /-- The buffer grew to its ceiling and the request still does not fit. -/
  | grewToMax
  /-- Nothing could be done, or nothing was forced. -/
  | exhausted
  deriving DecidableEq, Repr, Inhabited

namespace Buffer

/-- The capacity this buffer would take to hold `target` bytes. -/
def grownCapacity (b : Buffer) (target : Nat) : Nat :=
  Capacity.grown target b.maxCapacity

/-- Takes a cell of its own with the given capacity, zero past the old bytes. A
    capacity that is no larger changes nothing. -/
def reallocate (b : Buffer) (m : Memory) (capacity : Nat) : Buffer × Memory :=
  if capacity ≤ b.capacity then (b, m)
  else
    let bytes := (b.peek m 0 b.capacity).toArray ++ Array.replicate (capacity - b.capacity) 0
    let (region, m) := m.alloc bytes
    ({ b with regions := [region] }, m)

/-- Asks for room for `wanted` more bytes. A request past the ceiling fails, unless
    it is forced: then the buffer grows as far as it may. -/
def ensureWritable (b : Buffer) (m : Memory) (wanted : Nat) (force : Bool) :
    Writability × Buffer × Memory :=
  if wanted ≤ b.writableBytes then (.sufficient, b, m)
  else if b.maxWritableBytes < wanted then
    if !force || b.capacity == b.maxCapacity then (.exhausted, b, m)
    else (.grewToMax, b.reallocate m b.maxCapacity)
  else (.grew, b.reallocate m (b.grownCapacity (b.writer + wanted)))

/-- Makes sure that `wanted` more bytes can be written. -/
def ensureWritableBytes (b : Buffer) (m : Memory) (wanted : Nat) :
    Except Error (Buffer × Memory) :=
  if wanted ≤ b.writableBytes then .ok (b, m)
  else if b.maxWritableBytes < wanted then
    .error (.range (.growth b.writer wanted b.maxCapacity))
  else .ok (b.reallocate m (b.grownCapacity (b.writer + wanted)))

/-- Moves the readable bytes to the front. The marks move with them and stop at the
    start. -/
def discardReadBytes (b : Buffer) (m : Memory) : Buffer × Memory :=
  if b.reader = 0 then (b, m)
  else
    ({ b with
        reader := 0
        writer := b.writer - b.reader
        readerMark := b.readerMark - b.reader
        writerMark := b.writerMark - b.reader },
      m.store b.regions 0 (b.content m))

end Buffer

end Conduit
