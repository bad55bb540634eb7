import Conduit.Buffer.Capacity
import Conduit.Buffer.Memory
import Conduit.Error

/-!
# Buffers and Their Cursors

A buffer is a way of looking at memory: regions laid end to end make one index
space, and two cursors divide it.

```text
  +-------------------+------------------+------------------+
  | discardable bytes |  readable bytes  |  writable bytes  |
  +-------------------+------------------+------------------+
  0       <=       reader      <=      writer     <=     capacity
```

The bytes themselves stand in a `Memory`, so a buffer is a small value that can
be copied freely: two copies share every byte and move their cursors apart. An
operation says in its type what it may change. One that takes no memory moves
cursors only; one that returns no buffer moves none.

Nothing in the type keeps the cursors in order. `Buffer.Valid` says that they
are, and every operation checks before it moves one.

## Main definitions

* `ByteOrder`: Which end of a word comes first.
* `Buffer`: Regions, cursors, marks, and a ceiling for the capacity.
* `Buffer.Valid`: The cursors are in order and within the capacity.
* `Buffer.content`: The readable bytes.
* `Buffer.ofRegions`: A view of given regions, fully readable.
* `Buffer.ofBytes`: A buffer over a new cell.
-/

namespace Conduit

/-- Which end of a word comes first. -/
inductive ByteOrder where
  | big
  | little
  deriving DecidableEq, Repr, Inhabited

/-- A byte buffer: an index space over regions of memory, two cursors in it, a
    mark for each cursor, and the capacity past which it does not grow. -/
structure Buffer where
  regions : List Region := []
  order : ByteOrder := .big
  reader : Nat := 0
  writer : Nat := 0
  readerMark : Nat := 0
  writerMark : Nat := 0
  maxCapacity : Nat := 0
  deriving DecidableEq, Repr, Inhabited

namespace Buffer

/-- The buffer without room for a single byte. -/
def empty : Buffer := {}

/-- The size of the index space. -/
def capacity (b : Buffer) : Nat := Region.span b.regions

/-- The buffer looks through more than one region. -/
def isComposite (b : Buffer) : Bool := 2 ≤ b.regions.length

/-- The same buffer, reading words in another order. -/
def withOrder (b : Buffer) (order : ByteOrder) : Buffer := { b with order := order }

/-- How many bytes can be read. -/
def readableBytes (b : Buffer) : Nat := b.writer - b.reader

/-- How many bytes can be written without growing. -/
def writableBytes (b : Buffer) : Nat := b.capacity - b.writer

/-- How many bytes could be written if the buffer grew as far as it may. -/
def maxWritableBytes (b : Buffer) : Nat := b.maxCapacity - b.writer

def isReadable (b : Buffer) : Bool := 0 < b.readableBytes

def isWritable (b : Buffer) : Bool := 0 < b.writableBytes

/-- The cursors are in order, within the capacity, and that within the ceiling. -/
structure Valid (b : Buffer) : Prop where
  reader_le_writer : b.reader ≤ b.writer
  writer_le_capacity : b.writer ≤ b.capacity
  capacity_le_max : b.capacity ≤ b.maxCapacity

/-- The bytes from `index` on, as memory holds them. -/
def peek (b : Buffer) (m : Memory) (index length : Nat) : Bytes :=
  m.load b.regions index length

/-- The readable bytes. -/
def content (b : Buffer) (m : Memory) : Bytes :=
  b.peek m b.reader b.readableBytes

/-! ### Making buffers -/

/-- A view of the regions that are not empty, all of it readable and none of it
    able to grow. -/
def ofRegions (order : ByteOrder) (rs : List Region) : Buffer :=
  let kept := rs.filter fun r => 0 < r.length
  { regions := kept, order := order, writer := Region.span kept, maxCapacity := Region.span kept }

/-- A buffer over a new cell, with the first `writer` bytes readable. -/
def ofBytes (m : Memory) (order : ByteOrder) (bytes : Array UInt8) (writer maxCapacity : Nat) :
    Buffer × Memory :=
  let (region, m) := m.alloc bytes
  ({ regions := [region], order := order, writer := writer, maxCapacity := maxCapacity }, m)

/-! ### Moving the cursors -/

/-- Moves the reader to `index`, which may not pass the writer. -/
def setReader (b : Buffer) (index : Nat) : Except Error Buffer :=
  if b.writer < index then .error (.range (.readerIndex index b.writer))
  else .ok { b with reader := index }

/-- Moves the writer to `index`, between the reader and the capacity. -/
def setWriter (b : Buffer) (index : Nat) : Except Error Buffer :=
  if index < b.reader ∨ b.capacity < index then
    .error (.range (.writerIndex index b.reader b.capacity))
  else .ok { b with writer := index }

/-- Moves both cursors at once, so that neither has to wait for the other. -/
def setCursors (b : Buffer) (reader writer : Nat) : Except Error Buffer :=
  if writer < reader ∨ b.capacity < writer then
    .error (.range (.indices reader writer b.capacity))
  else .ok { b with reader := reader, writer := writer }

/-- Moves both cursors to the start. The bytes stay. -/
def clear (b : Buffer) : Buffer := { b with reader := 0, writer := 0 }

/-- Remembers where the reader is. -/
def markReader (b : Buffer) : Buffer := { b with readerMark := b.reader }

/-- Remembers where the writer is. -/
def markWriter (b : Buffer) : Buffer := { b with writerMark := b.writer }

/-- Moves the reader back to its mark. -/
def resetReader (b : Buffer) : Except Error Buffer := b.setReader b.readerMark

/-- Moves the writer back to its mark. -/
def resetWriter (b : Buffer) : Except Error Buffer := b.setWriter b.writerMark

/-! ### Checks -/

/-- Fails unless the stretch lies within the capacity. -/
def checkWindow (b : Buffer) (index length : Nat) : Except Error Unit :=
  if index + length ≤ b.capacity then .ok ()
  else .error (.range (.window index length b.capacity))

/-- Fails unless `length` bytes can be read. -/
def checkReadable (b : Buffer) (length : Nat) : Except Error Unit :=
  if length ≤ b.readableBytes then .ok ()
  else .error (.range (.unreadable length b.readableBytes))

/-- Passes over `length` readable bytes. -/
def skip (b : Buffer) (length : Nat) : Except Error Buffer := do
  b.checkReadable length
  return { b with reader := b.reader + length }

end Buffer

end Conduit
