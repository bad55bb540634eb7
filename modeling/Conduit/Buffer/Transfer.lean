import Conduit.Buffer.Growth

/-!
# Moving Bytes

Reading and writing runs of bytes, at an index, at the cursors, and before the
reader.

An operation either happens as a whole or not at all: those that return an
`Except` leave nothing changed when they fail, because their result carries
nothing changed, and the writing ones that count report zero. The two that fill
with zeros are the exception by design. They do as much as fits and say how
much.

## Main definitions

* `Buffer.getBytes`, `Buffer.setBytes`, `Buffer.setZero`: At an index.
* `Buffer.readInto`, `Buffer.write`, `Buffer.writeZero`: At the cursors.
* `Buffer.drainInto`: From one buffer into another.
* `Buffer.writeAhead`, `Buffer.writeZeroAhead`: Before the reader.
-/

namespace Conduit.Buffer

/-- The `length` bytes from `index` on. -/
def getBytes (b : Buffer) (m : Memory) (index length : Nat) : Except Error Bytes := do
  b.checkWindow index length
  return b.peek m index length

/-- Memory after `src` has been written from `index` on. -/
def setBytes (b : Buffer) (m : Memory) (index : Nat) (src : Bytes) : Except Error Memory := do
  b.checkWindow index src.length
  return m.store b.regions index src

/-- Fills with zeros from `index` on, as far as `length` and the capacity allow, and
    says how many bytes that were. -/
def setZero (b : Buffer) (m : Memory) (index length : Nat) : Nat × Memory :=
  let n := min length (b.capacity - index)
  (n, m.store b.regions index (List.replicate n 0))

/-- The next `length` readable bytes, passing over them. -/
def readInto (b : Buffer) (m : Memory) (length : Nat) : Except Error (Bytes × Buffer) := do
  b.checkReadable length
  return (b.peek m b.reader length, { b with reader := b.reader + length })

/-- Appends `src`, growing if it must, and says how many bytes were written: all of
    them or none. -/
def write (b : Buffer) (m : Memory) (src : Bytes) : Nat × Buffer × Memory :=
  if src.isEmpty then (0, b, m)
  else
    match b.ensureWritable m src.length false with
    | (.sufficient, b, m) | (.grew, b, m) =>
      (src.length, { b with writer := b.writer + src.length }, m.store b.regions b.writer src)
    | (.grewToMax, b, m) | (.exhausted, b, m) => (0, b, m)

/-- Appends the readable bytes of `src` to `b`, and passes over them in `src` if they
    fit. The bytes are read before anything is written, so it does not matter whether
    the two share storage. -/
def drainInto (src b : Buffer) (m : Memory) : Nat × Buffer × Buffer × Memory :=
  let (n, b, m) := b.write m (src.content m)
  (n, { src with reader := src.reader + n }, b, m)

/-- Appends up to `length` zeros, growing as far as the ceiling allows, and says how
    many were written. -/
def writeZero (b : Buffer) (m : Memory) (length : Nat) : Nat × Buffer × Memory :=
  let (_, b, m) := b.ensureWritable m length true
  let n := min length b.writableBytes
  (n, { b with writer := b.writer + n }, m.store b.regions b.writer (List.replicate n 0))

/-- Writes `src` right before the reader and moves the reader back over it. -/
def writeAhead (b : Buffer) (m : Memory) (src : Bytes) : Except Error (Buffer × Memory) :=
  if b.reader < src.length then .error (.range (.noRoomAhead src.length b.reader))
  else
    let reader := b.reader - src.length
    .ok ({ b with reader := reader }, m.store b.regions reader src)

/-- Writes up to `length` zeros right before the reader, as far as there is room, and
    says how many. -/
def writeZeroAhead (b : Buffer) (m : Memory) (length : Nat) : Nat × Buffer × Memory :=
  let n := min length b.reader
  let reader := b.reader - n
  (n, { b with reader := reader }, m.store b.regions reader (List.replicate n 0))

end Conduit.Buffer
