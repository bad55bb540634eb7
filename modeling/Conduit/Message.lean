import Conduit.Buffer.Sealed

/-!
# Messages

What handlers pass on to each other. A message is text, a number of a few sizes,
or a buffer; user events carry the same values. The numbers stand for everything that
the library takes no closer look at.

A buffer comes with the memory in which its bytes stand. What is done elsewhere after
it has been handed on does not show in it.

## Main definitions

* `Message`: A message.
* `MessageKind`: What a message is.
-/

namespace Conduit

/-- What a message is. -/
inductive MessageKind where
  | text
  | u8
  | u16
  | u32
  | buffer
  deriving DecidableEq, Repr, Inhabited

/-- Something that handlers pass on to each other. -/
inductive Message where
  | text (value : String)
  | u8 (value : UInt8)
  | u16 (value : UInt16)
  | u32 (value : UInt32)
  | buffer (value : Sealed)
  deriving Repr, Inhabited

/-- What a message is. -/
def Message.kind : Message → MessageKind
  | text _ => .text
  | u8 _ => .u8
  | u16 _ => .u16
  | u32 _ => .u32
  | buffer _ => .buffer

end Conduit
