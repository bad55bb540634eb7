import Conduit.Buffer.View
import Conduit.Text.Hex
import Conduit.Text.Utf8

/-!
# Buffers as Text

The readable bytes of a buffer as text or as hexadecimal digits, and a buffer
printed as a structure.

## Main definitions

* `Buffer.toText`: The readable bytes as text, malformed pieces replaced.
* `Buffer.hexDump`, `Buffer.hexDumpOf`: Bytes as hexadecimal digits.
* `Buffer.debug`: The cursors and sizes of a buffer.
-/

namespace Conduit

/-- The name of a byte order in printed structures. -/
def ByteOrder.debugName : ByteOrder → String
  | big => "BigEndian"
  | little => "LittleEndian"

namespace Buffer

/-- The readable bytes as text, with malformed pieces replaced. -/
def toText (b : Buffer) (m : Memory) : String :=
  Utf8.decodeLossy (b.content m)

/-- A growable buffer that holds the bytes of a text. -/
def copiedText (m : Memory) (order : ByteOrder) (text : String) : Buffer × Memory :=
  copied m order (Utf8.encode text)

/-- The readable bytes as hexadecimal digits. -/
def hexDump (b : Buffer) (m : Memory) : String :=
  Hex.encode (b.content m)

/-- The `length` bytes from `index` on as hexadecimal digits. -/
def hexDumpOf (b : Buffer) (m : Memory) (index length : Nat) : Except Error String := do
  let bytes ← b.getBytes m index length
  return Hex.encode bytes

/-- A buffer as a printed structure. -/
def debug (b : Buffer) : String :=
  s!"ChannelBuffer \x7b reader_index: {b.reader}, writer_index: {b.writer}, " ++
    s!"capacity: {b.capacity}, max_capacity: {b.maxCapacity}, " ++
    s!"order: {b.order.debugName}, composite: {b.isComposite} \x7d"

end Buffer

end Conduit
