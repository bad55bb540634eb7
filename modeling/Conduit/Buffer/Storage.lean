import Conduit.Buffer.Basic
import Conduit.Procedure

/-!
# Storage

How the regions of a buffer are reached. Storage is empty, or one window of a cell,
or several windows laid end to end, and each of the three has its own way to the
bytes. Where there are several, the region in which a stretch starts is found by a
search through the places where the regions start, and from there the stretch is
walked region by region.

Nothing is checked here before it is done, because the operations on buffers have
checked it. A stretch that reaches past its window or its cell is a fault.

## Main definitions

* `Access`: What is done to memory step by step.
* `Region.reach`: A stretch of a window, which has to be there.
* `Region.read`, `Region.write`, `Region.fill`, `Region.moveToFront`: Within one window.
* `Components`: Several windows, and where each of them starts.
* `Components.locate`, `Components.walk`: Where a stretch starts, and its pieces.
* `Storage`: The three forms that storage takes.
* `Buffer.storage`: The storage of a buffer.
-/

namespace Conduit

/-- What is done to memory step by step. -/
abbrev Access := Procedure Memory

open Procedure

/-- Takes a new cell for some bytes. -/
def Memory.claim (bytes : Array UInt8) : Access Region := ⟨fun m =>
  let (region, m) := m.alloc bytes
  (.ok region, m)⟩

namespace Region

/-- The stretch of a window, if it lies within the window and the cell. -/
def reach (r : Region) (index length : Nat) : Access Region := do
  let m ← state
  let start := r.offset + index
  if r.length < index + length then fault (.outside index length r.length)
  else if (m.cell r.cell).size < start + length then
    fault (.astray start length (m.cell r.cell).size)
  else return r.slice index length

/-- The bytes of a stretch. -/
def read (r : Region) (index length : Nat) : Access Bytes := do
  let stretch ← r.reach index length
  return (← state).loadRegion stretch

/-- Writes over a stretch. -/
def write (r : Region) (index : Nat) (src : Bytes) : Access Unit := do
  let stretch ← r.reach index src.length
  alter (·.storeRegion stretch src)

/-- Writes one value over a stretch. -/
def fill (r : Region) (index length : Nat) (value : UInt8) : Access Unit := do
  let stretch ← r.reach index length
  alter (·.storeRegion stretch (List.replicate length value))

/-- Copies what lies between two indices to the start of the window. The two may
    overlap. -/
def moveToFront (r : Region) (start stop : Nat) : Access Unit := do
  let length ← minus stop start
  let source ← r.reach start length
  let target ← r.reach 0 length
  alter fun m => m.storeRegion target (m.loadRegion source)

end Region

/-- Regions laid end to end, none of them empty, and where each of them starts. -/
structure Components where
  regions : List Region
  offsets : List Nat
  capacity : Nat
  deriving Repr, Inhabited

namespace Components

/-- Where regions start that are laid end to end from `start` on, and where the last
    of them ends. -/
def lay (start : Nat) : List Region → List Nat × Nat
  | [] => ([], start)
  | r :: rs =>
    let (offsets, stop) := lay (start + r.length) rs
    (start :: offsets, stop)

/-- Regions laid end to end. -/
def ofRegions (rs : List Region) : Components :=
  let (offsets, capacity) := lay 0 rs
  { regions := rs, offsets := offsets, capacity := capacity }

/-- Looks for a number in an ascending list: where it is, or else where it would have
    to stand. -/
def search (sorted : List Nat) (x : Nat) : Nat ⊕ Nat :=
  let place := (sorted.takeWhile (· < x)).length
  if sorted[place]? = some x then .inl place else .inr place

/-- The number of the region that the byte at an index lies in. -/
def locate (c : Components) (index : Nat) : Access Nat :=
  match search c.offsets index with
  | .inl i => return i
  | .inr i => minus i 1

variable {α : Type}

/-- Visits the rest of a stretch in regions that are given with their starts: each
    with an index in it, a length, and how much was visited before. -/
def walkFrom (visit : Region → Nat → Nat → Nat → Access α) :
    List (Region × Nat) → (index length done : Nat) → Access (List α)
  | [], _, length, done => if done < length then fault (.missing (length - done)) else return []
  | (region, offset) :: rest, index, length, done =>
    if done < length then do
      let skipped ← minus index offset
      let room ← minus region.length skipped
      let n := min room (length - done)
      let a ← visit region skipped n done
      let as ← walkFrom visit rest (index + n) length (done + n)
      return a :: as
    else return []

/-- Visits a stretch, region by region. -/
def walk (c : Components) (index length : Nat) (visit : Region → Nat → Nat → Nat → Access α) :
    Access (List α) := do
  if length = 0 then return []
  else
    let i ← c.locate index
    walkFrom visit ((c.regions.zip c.offsets).drop i) index length 0

/-- The bytes of a stretch. -/
def read (c : Components) (index length : Nat) : Access Bytes := do
  let pieces ← c.walk index length fun region skipped n _ => region.read skipped n
  return pieces.flatten

/-- Writes over a stretch. -/
def write (c : Components) (index : Nat) (src : Bytes) : Access Unit := do
  let _ ← c.walk index src.length fun region skipped n done =>
    region.write skipped ((src.drop done).take n)

/-- The windows that make up a stretch. -/
def decompose (c : Components) (index length : Nat) : Access (List Region) :=
  c.walk index length fun region skipped n _ => return region.slice skipped n

end Components

/-- Storage in its three forms. -/
inductive Storage where
  | empty
  | heap (region : Region)
  | composite (components : Components)
  deriving Repr, Inhabited

namespace Storage

/-- How many bytes there are. -/
def capacity : Storage → Nat
  | empty => 0
  | heap region => region.length
  | composite components => components.capacity

/-- The bytes of a stretch. -/
def read (s : Storage) (index length : Nat) : Access Bytes :=
  if length = 0 then return []
  else
    match s with
    | empty => fault (.vacant length)
    | heap region => region.read index length
    | composite components => components.read index length

/-- Writes over a stretch. -/
def write (s : Storage) (index : Nat) (src : Bytes) : Access Unit :=
  if src.isEmpty then return ()
  else
    match s with
    | empty => fault (.vacant src.length)
    | heap region => region.write index src
    | composite components => components.write index src

/-- Writes one value over a stretch. A single window does so in place. -/
def fill (s : Storage) (index length : Nat) (value : UInt8) : Access Unit :=
  match s with
  | heap region =>
    if 0 < length then region.fill index length value
    else s.write index (List.replicate length value)
  | _ => s.write index (List.replicate length value)

/-- The windows that make up a stretch. -/
def regions (s : Storage) (index length : Nat) : Access (List Region) :=
  if length = 0 then return []
  else
    match s with
    | empty => fault (.vacant length)
    | heap region => return [region.slice index length]
    | composite components => components.decompose index length

/-- Copies what lies between two indices to the front. A single window does so in
    place; otherwise the bytes are put aside and written back. -/
def moveToFront (s : Storage) (start stop : Nat) : Access Unit :=
  match s with
  | heap region => region.moveToFront start stop
  | _ => do
    let length ← minus stop start
    let unread ← s.read start length
    s.write 0 unread

end Storage

/-- The storage of a buffer. A region that is empty has no place among several. -/
def Buffer.storage (b : Buffer) : Storage :=
  match b.regions with
  | [] => .empty
  | [region] => .heap region
  | regions => .composite (.ofRegions (regions.filter fun r => 0 < r.length))

end Conduit
