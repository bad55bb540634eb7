import Conduit.Buffer.Snapshot
import Conduit.Buffer.Text
import Conduit.Buffer.Word

/-!
# Sealed Buffers

A buffer together with the memory it lives in. No other buffer looks at that
memory, so a sealed buffer is a plain value: what one does to it cannot be seen
through another. Containers keep their bytes this way, and messages that are
buffers travel this way.

Everything a buffer can do, a sealed buffer can do; the definitions here carry
the memory along.

## Main definitions

* `Sealed`: A buffer and its memory.
* `Sealed.content`, `Sealed.front`: The readable bytes, and the first few of them.
* `Sealed.write`, `Sealed.drainInto`: Appending.
* `Sealed.ofView`: A sealed copy of what another buffer shows.
-/

namespace Conduit

/-- A buffer together with the memory it lives in. -/
structure Sealed where
  buffer : Buffer := {}
  memory : Memory := {}
  deriving Repr, Inhabited

namespace Sealed

/-- A buffer that was just made in a memory of its own. -/
def ofPair (made : Buffer × Memory) : Sealed := ⟨made.1, made.2⟩

/-- A buffer of zeros that can grow, with nothing to read yet. -/
def growable (order : ByteOrder) (capacity : Nat) : Sealed :=
  ofPair (Buffer.growable {} order capacity)

/-- A buffer over exactly the given bytes, all readable, that never grows. -/
def wrap (order : ByteOrder) (bytes : Bytes) : Sealed :=
  ofPair (Buffer.wrap {} order bytes)

/-- A buffer over the given bytes, all readable, that can grow. -/
def copied (order : ByteOrder) (bytes : Bytes) : Sealed :=
  ofPair (Buffer.copied {} order bytes)

/-- A growable buffer with exactly the given bytes, even if there are none. -/
def ofBytes (order : ByteOrder) (bytes : Bytes) : Sealed :=
  ofPair (Buffer.ofBytes {} order bytes.toArray bytes.length
    (max Capacity.defaultMax bytes.length))

/-- A sealed copy of the readable bytes of a buffer. -/
def ofView (b : Buffer) (m : Memory) : Sealed :=
  ofBytes b.order (b.content m)

/-- The readable bytes. -/
def content (s : Sealed) : Bytes := s.buffer.content s.memory

/-- The first readable bytes, at most `count` of them. -/
def front (s : Sealed) (count : Nat) : Bytes :=
  s.buffer.peek s.memory s.buffer.reader (min count s.buffer.readableBytes)

def readableBytes (s : Sealed) : Nat := s.buffer.readableBytes

def isReadable (s : Sealed) : Bool := s.buffer.isReadable

def order (s : Sealed) : ByteOrder := s.buffer.order

/-- Appends bytes, and says how many were written: all of them or none. -/
def write (s : Sealed) (bytes : Bytes) : Nat × Sealed :=
  let (n, buffer, memory) := s.buffer.write s.memory bytes
  (n, ⟨buffer, memory⟩)

/-- Passes over `length` readable bytes. -/
def skip (s : Sealed) (length : Nat) : Except Error Sealed := do
  return { s with buffer := ← s.buffer.skip length }

/-- Appends the readable bytes of `src` to `s`, and passes over them in `src` if they
    fit: the source, then the target. -/
def drainInto (src s : Sealed) : Sealed × Sealed :=
  let (n, s) := s.write src.content
  ({ src with buffer := { src.buffer with reader := src.buffer.reader + n } }, s)

/-- A copy of the next `length` readable bytes, and the buffer past them. -/
def readBytes (s : Sealed) (length : Nat) : Except Error (Sealed × Sealed) := do
  let (bytes, buffer) ← s.buffer.readInto s.memory length
  return (ofBytes s.order bytes, { s with buffer := buffer })

/-- Moves the readable bytes to the front. -/
def discardReadBytes (s : Sealed) : Sealed :=
  ofPair (s.buffer.discardReadBytes s.memory)

/-- Moves both cursors to the start. -/
def clear (s : Sealed) : Sealed := { s with buffer := s.buffer.clear }

/-- Remembers where the reader is. -/
def markReader (s : Sealed) : Sealed := { s with buffer := s.buffer.markReader }

/-- Moves the reader back to its mark. -/
def resetReader (s : Sealed) : Except Error Sealed := do
  return { s with buffer := ← s.buffer.resetReader }

/-- The next word of `w` bytes, passing over it; zero when fewer are left. -/
def readWord (s : Sealed) (w : Nat) : Word w × Sealed :=
  let (v, buffer) := s.buffer.readWord s.memory w
  (v, { s with buffer := buffer })

/-- What can be seen of the buffer. -/
def snapshot (s : Sealed) : Snapshot := s.buffer.snapshot s.memory

end Sealed

end Conduit
