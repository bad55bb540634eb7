import Conduit.Buffer.Access

/-!
# What Is Done to Buffers

The operations that change a buffer, step by step. A call works on one buffer and
on the memory that it lives in, and both are given back however the call ends. The
cursors move when the source of the library moves them: a reader that has been set
before a write stays set if the write goes wrong.

## Main definitions

* `Grip`: A buffer, and the memory it lives in.
* `Call`: What is done to a buffer step by step.
* `Call.setReader`, `Call.setWriter`, `Call.discardReadBytes`, and so on: Cursors.
* `Call.ensureWritable`, `Call.ensureWritableBytes`: Making room.
* `Call.setBytes`, `Call.writeSlice`, `Call.writeBuffer`, and so on: Moving bytes.
* `Call.readInto`, `Call.readBytes`, `Call.readSlice`: Taking bytes off.
* `Call.set`, `Call.tryRead`, `Call.read`, `Call.write`, `Call.writeAhead`: Numbers.
-/

namespace Conduit

open Procedure

/-- A buffer, and the memory it lives in. -/
structure Grip where
  buffer : Buffer
  memory : Memory
  deriving Repr, Inhabited

/-- What is done to a buffer step by step. -/
abbrev Call := Procedure Grip

namespace Call

variable {α : Type}

/-- The buffer. -/
def self : Call Buffer := ⟨fun g => (.ok g.buffer, g)⟩

/-- Changes the buffer. -/
def update (f : Buffer → Buffer) : Call Unit := ⟨fun ⟨b, m⟩ => (.ok (), ⟨f b, m⟩)⟩

/-- Asks the buffer. -/
def ask (f : Buffer → Access α) : Call α := ⟨fun ⟨b, m⟩ =>
  let (result, m) := (f b).run m
  (result, ⟨b, m⟩)⟩

/-- Does something to a given buffer: what came of it, and the buffer afterwards. -/
def upon (b : Buffer) (c : Call α) : Access (α × Buffer) := ⟨fun m =>
  match c.run ⟨b, m⟩ with
  | (.ok a, g) => (.ok (a, g.buffer), g.memory)
  | (.error halt, g) => (.error halt, g.memory)⟩

/-! ### Cursors -/

/-- Moves the reader to `index`, which may not pass the writer. -/
def setReader (index : Nat) : Call Unit := do
  let b ← self
  if b.writer < index then fail (.range (.readerIndex index b.writer))
  else update fun b => { b with reader := index }

/-- Moves the writer to `index`, between the reader and the capacity. -/
def setWriter (index : Nat) : Call Unit := do
  let b ← self
  if index < b.reader ∨ b.storage.capacity < index then
    fail (.range (.writerIndex index b.reader b.storage.capacity))
  else update fun b => { b with writer := index }

/-- Moves both cursors at once, so that neither has to wait for the other. -/
def setCursors (reader writer : Nat) : Call Unit := do
  let b ← self
  if writer < reader ∨ b.storage.capacity < writer then
    fail (.range (.indices reader writer b.storage.capacity))
  else update fun b => { b with reader := reader, writer := writer }

/-- Moves both cursors to the start. The bytes stay. -/
def clear : Call Unit := update fun b => { b with reader := 0, writer := 0 }

/-- Remembers where the reader is. -/
def markReader : Call Unit := update fun b => { b with readerMark := b.reader }

/-- Remembers where the writer is. -/
def markWriter : Call Unit := update fun b => { b with writerMark := b.writer }

/-- Moves the reader back to its mark. -/
def resetReader : Call Unit := do
  let b ← self
  setReader b.readerMark

/-- Moves the writer back to its mark. -/
def resetWriter : Call Unit := do
  let b ← self
  setWriter b.writerMark

/-- Moves the reader over `length` bytes. -/
def advance (length : Nat) : Call Unit := update fun b => { b with reader := b.reader + length }

/-- Passes over `length` readable bytes. -/
def skip (length : Nat) : Call Unit := do
  ask (Access.checkReadable · length)
  advance length

/-! ### Making room -/

/-- Takes a cell of its own with the given capacity, zero past the old bytes. A
    capacity that is no larger changes nothing. -/
def reallocate (newCapacity : Nat) : Call Unit := do
  let b ← self
  let capacity := b.storage.capacity
  if newCapacity ≤ capacity then pure ()
  else
    let old ← ask fun b => b.storage.read 0 capacity
    let room ← minus newCapacity capacity
    let region ← ask fun _ => Memory.claim (old.toArray ++ Array.replicate room 0)
    update fun b => { b with regions := [region] }

/-- Asks for room for `wanted` more bytes. A request past the ceiling fails, unless
    it is forced: then the buffer grows as far as it may. -/
def ensureWritable (wanted : Nat) (force : Bool) : Call Writability := do
  let writable ← ask Access.writableBytes
  if wanted ≤ writable then return .sufficient
  else
    let most ← ask Access.maxWritableBytes
    let b ← self
    if most < wanted then
      if !force || b.storage.capacity == b.maxCapacity then return .exhausted
      else
        reallocate b.maxCapacity
        return .grewToMax
    else
      reallocate (b.grownCapacity (b.writer + wanted))
      return .grew

/-- Makes sure that `wanted` more bytes can be written. -/
def ensureWritableBytes (wanted : Nat) : Call Unit := do
  let writable ← ask Access.writableBytes
  if wanted ≤ writable then pure ()
  else
    let most ← ask Access.maxWritableBytes
    let b ← self
    if most < wanted then fail (.range (.growth b.writer wanted b.maxCapacity))
    else reallocate (b.grownCapacity (b.writer + wanted))

/-- Moves the readable bytes to the front, if there are any. The marks move with them
    and stop at the start. -/
def discardReadBytes : Call Unit := do
  let b ← self
  let decrement := b.reader
  if decrement = 0 then pure ()
  else
    provided (decrement ≠ b.writer) (ask fun b => b.storage.moveToFront decrement b.writer)
    let writer ← minus b.writer decrement
    update fun b =>
      { b with
        writer := writer
        reader := 0
        readerMark := b.readerMark - decrement
        writerMark := b.writerMark - decrement }

/-! ### Writing -/

/-- Writes `src` from `index` on. -/
def setBytes (index : Nat) (src : Bytes) : Call Unit := do
  ask (Access.checkIndex · index src.length)
  ask fun b => b.storage.write index src

/-- Fills with zeros from `index` on, as far as `length` and the capacity allow, and
    says how many bytes that were. -/
def setZero (index length : Nat) : Call Nat := do
  let b ← self
  let n := min length (b.storage.capacity - index)
  provided (0 < n) (ask fun b => b.storage.fill index n 0)
  return n

/-- Appends `src`, growing if it must, and says how many bytes were written: all of
    them or none. -/
def writeSlice (src : Bytes) : Call Nat :=
  if src.isEmpty then pure 0
  else do
    match ← ensureWritable src.length false with
    | .sufficient | .grew =>
      ask fun b => b.storage.write b.writer src
      update fun b => { b with writer := b.writer + src.length }
      return src.length
    | .grewToMax | .exhausted => return 0

/-- Appends the readable bytes of another buffer and passes over them there: how many
    they were, and the other buffer afterwards. -/
def writeBuffer (src : Buffer) : Call (Nat × Buffer) := do
  let length ← ask fun _ => Access.readableBytes src
  if length = 0 then return (0, src)
  else
    let staged ← ask fun _ => src.storage.read src.reader length
    let written ← writeSlice staged
    return (written, { src with reader := src.reader + written })

/-- Appends up to `length` zeros, growing as far as the ceiling allows, and says how
    many were written. -/
def writeZero (length : Nat) : Call Nat :=
  if length = 0 then pure 0
  else do
    let _ ← ensureWritable length true
    let writable ← ask Access.writableBytes
    let n := min length writable
    provided (0 < n) do
      ask fun b => b.storage.fill b.writer n 0
      update fun b => { b with writer := b.writer + n }
    return n

/-- Writes `src` right before the reader, which is moved back first. -/
def writeBytesAhead (src : Bytes) : Call Unit := do
  let b ← self
  if b.reader < src.length then fail (.range (.noRoomAhead src.length b.reader))
  else
    let reader ← minus b.reader src.length
    update fun b => { b with reader := reader }
    ask fun b => b.storage.write b.reader src

/-- Writes up to `length` zeros right before the reader, as far as there is room, and
    says how many. -/
def writeZeroAhead (length : Nat) : Call Nat := do
  let b ← self
  let n := min length b.reader
  provided (0 < n) do
    let reader ← minus b.reader n
    update fun b => { b with reader := reader }
    ask fun b => b.storage.fill b.reader n 0
  return n

/-! ### Taking bytes off -/

/-- The next `length` readable bytes, passing over them. -/
def readInto (length : Nat) : Call Bytes := do
  ask (Access.checkReadable · length)
  let bytes ← ask fun b => b.storage.read b.reader length
  advance length
  return bytes

/-- A copy of the next `length` readable bytes, passing over them. -/
def readBytes (length : Nat) : Call Buffer := do
  ask (Access.checkReadable · length)
  let taken ← ask fun b => Access.copy b b.reader length
  advance length
  return taken

/-- A view of the next `length` readable bytes, passing over them. -/
def readSlice (length : Nat) : Call Buffer := do
  ask (Access.checkReadable · length)
  let taken ← ask fun b => Access.slice b b.reader length
  advance length
  return taken

/-! ### Numbers -/

/-- Writes a number at an index. -/
def set (f : Format α) (index : Nat) (v : α) : Call Unit := do
  let b ← self
  setBytes index (f.encode b.order v)

/-- The next number, passing over it. -/
def tryRead (f : Format α) : Call α := do
  ask (Access.checkReadable · f.width)
  let v ← ask fun b => Access.get f b b.reader
  advance f.width
  return v

/-- The next number, passing over it; zero if the reading fails. -/
def read (f : Format α) : Call α := ⟨fun g =>
  match (tryRead f).run g with
  | (.ok v, g) => (.ok v, g)
  | (.error (.failed _), g) => (.ok f.zero, g)
  | (.error (.faulted found), g) => (.error (.faulted found), g)⟩

/-- Appends a number, and says how many bytes were written: all of them or none. -/
def write (f : Format α) (v : α) : Call Nat := do
  let b ← self
  writeSlice (f.encode b.order v)

/-- Writes a number right before the reader and moves the reader back over it. -/
def writeAhead (f : Format α) (v : α) : Call Unit := do
  let b ← self
  writeBytesAhead (f.encode b.order v)

end Call

/-- A growable buffer that holds `bytes`. -/
def Access.bufferOf (f : BufferFactory) (bytes : Bytes) : Access Buffer := do
  let b ← growable f.order bytes.length
  let (_, b) ← Call.upon b (Call.writeSlice bytes)
  return b

end Conduit
