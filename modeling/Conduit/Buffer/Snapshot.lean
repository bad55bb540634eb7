import Conduit.Buffer.Order

/-!
# Snapshots

What can be seen of a buffer from outside, as one value that does not change when
the buffer does. Short content is kept whole. Long content is summed up by its
length, its hash and both of its ends.

## Main definitions

* `Excerpt`: Content, whole or summed up.
* `Snapshot`: Cursors, sizes, byte order and content.
* `Buffer.snapshot`: The snapshot of a buffer.
-/

namespace Conduit

/-- The content of a buffer, whole or summed up. -/
inductive Excerpt where
  | whole (bytes : Bytes)
  | summary (length : Nat) (hash : Int) (head tail : Bytes)
  deriving DecidableEq, Repr, Inhabited

namespace Excerpt

/-- The longest content that is kept whole. -/
def limit : Nat := 128

/-- How much of each end of a long content is kept. -/
def ends : Nat := 16

/-- The excerpt of a byte string. -/
def ofBytes (bytes : Bytes) : Excerpt :=
  if bytes.length ≤ limit then .whole bytes
  else
    .summary bytes.length (Bytes.hashCode bytes) (bytes.take ends)
      (bytes.drop (bytes.length - ends))

end Excerpt

/-- What can be seen of a buffer. -/
structure Snapshot where
  reader : Nat
  writer : Nat
  capacity : Nat
  maxCapacity : Nat
  order : ByteOrder
  isComposite : Bool
  content : Excerpt
  deriving DecidableEq, Repr, Inhabited

/-- What can be seen of a buffer now. -/
def Buffer.snapshot (b : Buffer) (m : Memory) : Snapshot where
  reader := b.reader
  writer := b.writer
  capacity := b.capacity
  maxCapacity := b.maxCapacity
  order := b.order
  isComposite := b.isComposite
  content := Excerpt.ofBytes (b.content m)

end Conduit
