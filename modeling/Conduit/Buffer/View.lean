import Conduit.Buffer.Transfer

/-!
# Views and Copies

Buffers made from other buffers, and from plain bytes. A view shares storage with
what it was made from; a copy does not.

Wrapping several buffers lays their readable bytes end to end. A source that is
itself laid end to end contributes its own regions, so wrapping never nests, and
a source without readable bytes contributes nothing. Sources must agree on the
byte order, because the result has to have one; a source with nothing to read
has no say in it.

## Main definitions

* `Buffer.slice`, `Buffer.readableSlice`, `Buffer.readSlice`: Views of a stretch.
* `Buffer.decompose`, `Buffer.components`: The flat views that make up a stretch.
* `Buffer.copy`, `Buffer.readBytes`: Copies of a stretch.
* `Buffer.growable`, `Buffer.fixed`, `Buffer.wrap`, `Buffer.copied`: From plain bytes.
* `Buffer.wrapParts`, `Buffer.wrapAll`, `Buffer.copyParts`, `Buffer.copyAll`: From several.
* `BufferFactory`: Growable buffers in one byte order.
-/

namespace Conduit

namespace Buffer

/-! ### From one buffer -/

/-- A view of `length` bytes from `index` on. -/
def slice (b : Buffer) (index length : Nat) : Except Error Buffer := do
  b.checkWindow index length
  return ofRegions b.order (Region.clip b.regions index length)

/-- A view of the readable bytes. -/
def readableSlice (b : Buffer) : Buffer :=
  ofRegions b.order (Region.clip b.regions b.reader b.readableBytes)

/-- A view of the next `length` readable bytes, passing over them. -/
def readSlice (b : Buffer) (length : Nat) : Except Error (Buffer × Buffer) := do
  b.checkReadable length
  let view ← b.slice b.reader length
  return (view, { b with reader := b.reader + length })

/-- A copy of `length` bytes from `index` on, which can grow. -/
def copy (b : Buffer) (m : Memory) (index length : Nat) : Except Error (Buffer × Memory) := do
  b.checkWindow index length
  return ofBytes m b.order (b.peek m index length).toArray length
    (max Capacity.defaultMax length)

/-- A copy of the next `length` readable bytes, passing over them: the copy, then the
    buffer with its reader moved. -/
def readBytes (b : Buffer) (m : Memory) (length : Nat) :
    Except Error (Buffer × Buffer × Memory) := do
  b.checkReadable length
  let (taken, m) ← b.copy m b.reader length
  return (taken, { b with reader := b.reader + length }, m)

/-- The flat views that make up `length` bytes from `index` on. -/
def decompose (b : Buffer) (index length : Nat) : Except Error (List Buffer) := do
  b.checkWindow index length
  return (Region.clip b.regions index length).map fun r => ofRegions b.order [r]

/-- The flat views that make up the whole buffer. -/
def components (b : Buffer) : List Buffer :=
  (Region.clip b.regions 0 b.capacity).map fun r => ofRegions b.order [r]

/-! ### From plain bytes -/

/-- A buffer of zeros that can grow, with nothing to read yet. -/
def growable (m : Memory) (order : ByteOrder) (capacity : Nat) : Buffer × Memory :=
  ofBytes m order (Array.replicate capacity 0) 0 (max Capacity.defaultMax capacity)

/-- A buffer of zeros that never grows, with nothing to read yet. -/
def fixed (m : Memory) (order : ByteOrder) (capacity : Nat) : Buffer × Memory :=
  ofBytes m order (Array.replicate capacity 0) 0 capacity

/-- A buffer over exactly the given bytes, all readable, that never grows. -/
def wrap (m : Memory) (order : ByteOrder) (bytes : Bytes) : Buffer × Memory :=
  if bytes.isEmpty then (empty.withOrder order, m)
  else ofBytes m order bytes.toArray bytes.length bytes.length

/-- A buffer over the given bytes, all readable, that can grow. -/
def copied (m : Memory) (order : ByteOrder) (bytes : Bytes) : Buffer × Memory :=
  if bytes.isEmpty then (empty.withOrder order, m)
  else ofBytes m order bytes.toArray bytes.length (max Capacity.defaultMax bytes.length)

/-! ### From several -/

/-- A new cell for each part, in order. -/
def allocAll (m : Memory) : List Bytes → List Region × Memory
  | [] => ([], m)
  | part :: parts =>
    let (region, m) := m.alloc part.toArray
    let (regions, m) := allocAll m parts
    (region :: regions, m)

/-- A view of the parts laid end to end, each in a cell of its own. -/
def wrapParts (m : Memory) (order : ByteOrder) (parts : List Bytes) : Buffer × Memory :=
  let (regions, m) := allocAll m (parts.filter (!·.isEmpty))
  (ofRegions order regions, m)

/-- The byte order on which the readable sources agree; big-endian if there are none. -/
def commonOrder (sources : List Buffer) : Except Error ByteOrder :=
  match sources.filter (·.isReadable) with
  | [] => .ok .big
  | first :: rest =>
    if rest.all (·.order == first.order) then .ok first.order
    else .error (.argument .mixedOrder)

/-- The sum of the lengths, which may not pass the default ceiling. -/
def checkedTotal (lengths : List Nat) : Except Error Nat :=
  let total := lengths.foldr (· + ·) 0
  if total ≤ Capacity.defaultMax then .ok total
  else .error (.argument .totalOverflow)

/-- A view of the readable bytes of the sources, laid end to end. -/
def wrapAll (sources : List Buffer) : Except Error Buffer := do
  let order ← commonOrder sources
  return ofRegions order
    (sources.flatMap fun b => Region.clip b.regions b.reader b.readableBytes)

/-- One buffer with a copy of all parts. -/
def copyParts (m : Memory) (order : ByteOrder) (parts : List Bytes) :
    Except Error (Buffer × Memory) := do
  let _ ← checkedTotal (parts.map (·.length))
  return copied m order parts.flatten

/-- A copy of the readable bytes of a buffer. -/
def copyOf (b : Buffer) (m : Memory) : Buffer × Memory :=
  copied m b.order (b.content m)

/-- One buffer with a copy of the readable bytes of all sources. -/
def copyAll (m : Memory) (sources : List Buffer) : Except Error (Buffer × Memory) := do
  let order ← commonOrder sources
  let _ ← checkedTotal (sources.map (·.readableBytes))
  return copied m order (sources.flatMap (·.content m))

end Buffer

/-- A maker of growable buffers, with a byte order for those that name none. -/
structure BufferFactory where
  order : ByteOrder := .big
  deriving DecidableEq, Repr, Inhabited

namespace BufferFactory

/-- A growable buffer in the given order. -/
def bufferIn (_ : BufferFactory) (m : Memory) (order : ByteOrder) (capacity : Nat) :
    Buffer × Memory :=
  Buffer.growable m order capacity

/-- A growable buffer in the factory's order. -/
def buffer (f : BufferFactory) (m : Memory) (capacity : Nat) : Buffer × Memory :=
  f.bufferIn m f.order capacity

/-- A growable buffer that holds `bytes`. -/
def bufferOf (f : BufferFactory) (m : Memory) (bytes : Bytes) : Buffer × Memory :=
  let (b, m) := f.buffer m bytes.length
  (b.write m bytes).2

end BufferFactory

end Conduit
