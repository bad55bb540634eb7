import Conduit.Buffer.Scan
import Conduit.Buffer.Snapshot
import Conduit.Buffer.Storage
import Conduit.Buffer.Text
import Conduit.Buffer.Word

/-!
# What Buffers Are Asked

The operations that leave a buffer as it is, step by step: what is checked, what
is subtracted, and which bytes of storage are reached for. Each of them is a
function of the buffer and says in its type that only memory is worked on. Making a
buffer is one of them, since the one that is made is new.

`Conduit.Buffer.View`, `Transfer`, `Scan` and `Word` say in one expression what
these operations come to. That they do, on any buffer that a program can have, is a
theorem.

## Main definitions

* `Access.readableBytes`, `Access.checkIndex`, `Access.checkReadable`: Sizes and checks.
* `Access.getBytes`, `Access.toVec`: Bytes.
* `Access.slice`, `Access.decompose`, `Access.components`: Views.
* `Access.indexOfBy`, `Access.bytesBeforeBy`: Scans.
* `Access.compareTo`, `Access.equals`, `Access.hashCode`: Comparisons.
* `Format`: How numbers of one kind stand in bytes, among them those of three bytes.
* `Access.get`: A number.
* `Access.fromVec`, `Access.wrapAll`, `Access.copyAll`, and so on: Buffers that are made.
-/

namespace Conduit

open Procedure

/-! ### Numbers as bytes -/

/-- How numbers of one kind stand in bytes. -/
structure Format (α : Type) where
  /-- How many bytes a number takes. -/
  width : Nat
  /-- The number that is given where none can be read. -/
  zero : α
  encode : ByteOrder → α → Bytes
  decode : ByteOrder → Bytes → α

namespace Format

/-- Words of `w` bytes. -/
def word (w : Nat) : Format (Word w) where
  width := w
  zero := 0
  encode := Word.encode
  decode := Word.decode w

/-- The three low bytes of a word of four. -/
def lowBytes (order : ByteOrder) (v : Word 4) : Bytes :=
  let bytes := Word.encode .big v
  match order with
  | .big => bytes.drop 1
  | .little => (bytes.drop 1).reverse

/-- The word of four bytes whose three low bytes are given. -/
def ofLowBytes (order : ByteOrder) (bytes : Bytes) : Word 4 :=
  match order with
  | .big => Word.decode 4 .big (0 :: bytes)
  | .little => Word.decode 4 .little (bytes ++ [0])

/-- The numbers of three bytes, in a word of four. -/
def medium : Format (Word 4) where
  width := 3
  zero := 0
  encode := lowBytes
  decode := ofLowBytes

/-- The same, with the sign spread over the fourth byte. -/
def signedMedium : Format (Word 4) where
  width := 3
  zero := 0
  encode := lowBytes
  decode order bytes := (ofLowBytes order bytes <<< 8).sshiftRight 8

end Format

namespace Access

/-! ### Sizes and checks -/

/-- How many bytes can be read. -/
def readableBytes (b : Buffer) : Access Nat := minus b.writer b.reader

/-- How many bytes can be written without growing. -/
def writableBytes (b : Buffer) : Access Nat := minus b.storage.capacity b.writer

/-- How many bytes could be written if the buffer grew as far as it may. -/
def maxWritableBytes (b : Buffer) : Access Nat := minus b.maxCapacity b.writer

def isReadable (b : Buffer) : Access Bool := do
  let readable ← readableBytes b
  return 0 < readable

def isWritable (b : Buffer) : Access Bool := do
  let writable ← writableBytes b
  return 0 < writable

/-- Fails unless the stretch lies within the capacity. -/
def checkIndex (b : Buffer) (index length : Nat) : Access Unit :=
  if index + length ≤ b.storage.capacity then pure ()
  else fail (.range (.window index length b.storage.capacity))

/-- Fails unless `length` bytes can be read. -/
def checkReadable (b : Buffer) (length : Nat) : Access Unit := do
  let readable ← readableBytes b
  if readable < length then fail (.range (.unreadable length readable)) else pure ()

/-! ### Bytes -/

/-- The `length` bytes from `index` on. -/
def getBytes (b : Buffer) (index length : Nat) : Access Bytes := do
  checkIndex b index length
  b.storage.read index length

/-- The readable bytes. -/
def toVec (b : Buffer) : Access Bytes := do
  let readable ← readableBytes b
  b.storage.read b.reader readable

/-- The `length` bytes from `index` on as hexadecimal digits. -/
def hexDumpOf (b : Buffer) (index length : Nat) : Access String := do
  let bytes ← getBytes b index length
  return Hex.encode bytes

/-- A number at an index. -/
def get {α : Type} (f : Format α) (b : Buffer) (index : Nat) : Access α := do
  let bytes ← getBytes b index f.width
  return f.decode b.order bytes

/-! ### Buffers over given regions and bytes -/

/-- A view of one region, all of it readable. -/
def ofRegion (order : ByteOrder) (r : Region) : Buffer :=
  { regions := [r], order := order, writer := r.length, maxCapacity := r.length }

/-- A buffer over a new cell, with the first `writer` bytes readable. -/
def fromVec (order : ByteOrder) (bytes : Array UInt8) (writer maxCapacity : Nat) :
    Access Buffer := do
  if writer ≤ bytes.size ∧ bytes.size ≤ maxCapacity then
    let region ← Memory.claim bytes
    return { regions := [region], order := order, writer := writer, maxCapacity := maxCapacity }
  else fault (.unfounded writer bytes.size maxCapacity)

/-! ### Views and copies of one buffer -/

/-- A view of `length` bytes from `index` on. -/
def slice (b : Buffer) (index length : Nat) : Access Buffer := do
  checkIndex b index length
  let regions ← b.storage.regions index length
  return .ofRegions b.order regions

/-- A view of the readable bytes. -/
def readableSlice (b : Buffer) : Access Buffer := do
  let readable ← readableBytes b
  let regions ← b.storage.regions b.reader readable
  return .ofRegions b.order regions

/-- A copy of `length` bytes from `index` on, which can grow. -/
def copy (b : Buffer) (index length : Nat) : Access Buffer := do
  checkIndex b index length
  let bytes ← b.storage.read index length
  fromVec b.order bytes.toArray length (max Capacity.defaultMax length)

/-- The flat views that make up `length` bytes from `index` on. -/
def decompose (b : Buffer) (index length : Nat) : Access (List Buffer) := do
  checkIndex b index length
  let regions ← b.storage.regions index length
  return regions.map (ofRegion b.order)

/-- The flat views that make up the whole buffer. -/
def components (b : Buffer) : Access (List Buffer) := do
  let regions ← b.storage.regions 0 b.storage.capacity
  return regions.map (ofRegion b.order)

/-! ### Scans -/

section Scans

variable {τ : Type}

/-- Asks about `count` bytes, from `index` upwards, until the answer is yes. -/
def findUp (s : Storage) (ask : Buffer.Question τ) (index : Nat) :
    (count : Nat) → τ → Memory → Except Halt (Option Nat × τ) × Memory
  | 0, t, m => (.ok (none, t), m)
  | count + 1, t, m =>
    match (s.read index 1).run m with
    | (.error halt, m) => (.error halt, m)
    | (.ok bytes, m) =>
      match ask (bytes.headD 0) t with
      | (true, t) => (.ok (some index, t), m)
      | (false, t) => findUp s ask (index + 1) count t m

/-- Asks about `count` bytes, from right below `low + count` down to `low`, until the
    answer is yes. -/
def findDown (s : Storage) (ask : Buffer.Question τ) (low : Nat) :
    (count : Nat) → τ → Memory → Except Halt (Option Nat × τ) × Memory
  | 0, t, m => (.ok (none, t), m)
  | count + 1, t, m =>
    match (s.read (low + count) 1).run m with
    | (.error halt, m) => (.error halt, m)
    | (.ok bytes, m) =>
      match ask (bytes.headD 0) t with
      | (true, t) => (.ok (some (low + count), t), m)
      | (false, t) => findDown s ask low count t m

/-- Scans from `start` to `stop`: forwards if they are in order, and otherwise
    backwards from right before `start` down to `stop`. A range that is empty is not
    scanned. -/
def indexOfBy (b : Buffer) (start stop : Nat) (ask : Buffer.Question τ) (t : τ) :
    Access (Option Nat × τ) :=
  let capacity := b.storage.capacity
  if start ≤ stop then ⟨findUp b.storage ask start (min stop capacity - start) t⟩
  else ⟨findDown b.storage ask stop (min start capacity - stop) t⟩

/-- The distance from the reader to the first readable byte that satisfies the
    question. -/
def bytesBeforeBy (b : Buffer) (ask : Buffer.Question τ) (t : τ) :
    Access (Option Nat × τ) := do
  match ← indexOfBy b b.reader b.writer ask t with
  | (none, t) => return (none, t)
  | (some i, t) =>
    let distance ← minus i b.reader
    return (some distance, t)

end Scans

/-! ### Comparisons -/

/-- The order of the readable bytes. -/
def compareTo (a b : Buffer) : Access Ordering := do
  let left ← toVec a
  let right ← toVec b
  return Bytes.compareWords left right

/-- The readable bytes of both buffers are the same. -/
def equals (a b : Buffer) : Access Bool := do
  let left ← readableBytes a
  let right ← readableBytes b
  if left ≠ right then return false
  else if a.reader = b.reader ∧ a.sharesWindow b then return true
  else
    let order ← compareTo a b
    return order == .eq

/-- A hash of the readable bytes, as a signed number. It is never zero. -/
def hashCode (b : Buffer) : Access Int := do
  let bytes ← toVec b
  return Bytes.hashCode bytes

/-! ### From plain bytes -/

/-- A buffer of zeros that can grow, with nothing to read yet. -/
def growable (order : ByteOrder) (capacity : Nat) : Access Buffer :=
  fromVec order (Array.replicate capacity 0) 0 (max Capacity.defaultMax capacity)

/-- A buffer of zeros that never grows, with nothing to read yet. -/
def fixed (order : ByteOrder) (capacity : Nat) : Access Buffer :=
  fromVec order (Array.replicate capacity 0) 0 capacity

/-- A buffer over exactly the given bytes, all readable, that never grows. -/
def wrap (order : ByteOrder) (bytes : Bytes) : Access Buffer :=
  if bytes.isEmpty then pure (Buffer.empty.withOrder order)
  else fromVec order bytes.toArray bytes.length bytes.length

/-- A buffer over the given bytes, all readable, that can grow. -/
def copied (order : ByteOrder) (bytes : Bytes) : Access Buffer :=
  if bytes.isEmpty then pure (Buffer.empty.withOrder order)
  else fromVec order bytes.toArray bytes.length (max Capacity.defaultMax bytes.length)

/-! ### From several -/

/-- A view of the parts laid end to end, each in a cell of its own. -/
def wrapParts (order : ByteOrder) (parts : List Bytes) : Access Buffer := do
  let regions ← each (fun part => Memory.claim part.toArray) (parts.filter (!·.isEmpty))
  return .ofRegions order regions

/-- Those of the buffers that have something to read. -/
def readables : List Buffer → Access (List Buffer)
  | [] => pure []
  | b :: bs => do
    let readable ← isReadable b
    let rest ← readables bs
    return if readable then b :: rest else rest

/-- The byte order on which the readable sources agree; big-endian if there are none. -/
def commonOrder (sources : List Buffer) : Access ByteOrder := do
  match ← readables sources with
  | [] => return .big
  | first :: rest =>
    if rest.all (·.order == first.order) then return first.order
    else fail (.argument .mixedOrder)

/-- The sum of the lengths and of what has been added up before, which may not pass
    the default ceiling at any point. -/
def checkedTotal (total : Nat) : List Nat → Access Nat
  | [] => pure total
  | length :: lengths =>
    if total + length ≤ Capacity.defaultMax then checkedTotal (total + length) lengths
    else fail (.argument .totalOverflow)

/-- The windows that the readable bytes of a buffer lie in. -/
def readableRegions (b : Buffer) : Access (List Region) := do
  let readable ← readableBytes b
  b.storage.regions b.reader readable

/-- A view of the readable bytes of the sources, laid end to end. -/
def wrapAll (sources : List Buffer) : Access Buffer := do
  let order ← commonOrder sources
  let kept ← readables sources
  let regions ← each readableRegions kept
  return .ofRegions order regions.flatten

/-- One buffer with a copy of all parts. -/
def copyParts (order : ByteOrder) (parts : List Bytes) : Access Buffer := do
  let _ ← checkedTotal 0 (parts.map (·.length))
  copied order parts.flatten

/-- A copy of the readable bytes of a buffer. -/
def copyOf (b : Buffer) : Access Buffer := do
  let bytes ← toVec b
  copied b.order bytes

/-- One buffer with a copy of the readable bytes of all sources. -/
def copyAll (sources : List Buffer) : Access Buffer := do
  let order ← commonOrder sources
  let lengths ← each readableBytes sources
  let _ ← checkedTotal 0 lengths
  let parts ← each toVec sources
  copied order parts.flatten

end Access

end Conduit
