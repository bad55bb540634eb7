import Conduit.Container

/-!
# Text Frames

Frames of bytes as text, and text as bytes. Whatever is not a frame, or not text,
passes through unchanged.

A frame that is not UTF-8 is dropped. The first such frame is remembered, and the
others are not held up by it.

## Main definitions

* `TextFrame.decode`: A buffer as text.
* `TextFrame.decodeContainer`: What the content of a container comes to.
* `TextFrame.encodeInto`: Puts a message where text becomes bytes.
-/

namespace Conduit.TextFrame

/-- The text of a buffer. -/
def decode (frame : Sealed) : Except Error String :=
  match Utf8.decode frame.content with
  | .ok text => .ok text
  | .error fault => .error (.decode (.notText fault))

/-- Messages with every frame turned into text, and the first fault, if there is one. -/
def decodeMessages : List Message → List Message × Option Error
  | [] => ([], none)
  | msg :: rest =>
    let (decoded, fault) := decodeMessages rest
    match msg with
    | .buffer frame =>
      match decode frame with
      | .ok text => (.text text :: decoded, fault)
      | .error cause => (decoded, some cause)
    | msg => (msg :: decoded, fault)

/-- What the content of a container comes to: its messages, then its loose bytes as
    one frame. What is left of the container has neither. -/
def decodeContainer (c : Container) : List Message × Option Error × Container :=
  let (queued, rest) := c.drain
  let loose := if rest.bytes.isReadable then [Message.buffer rest.bytes] else []
  let (decoded, fault) := decodeMessages (queued ++ loose)
  (decoded, fault, if rest.bytes.isReadable then rest.clear else rest)

/-- Puts a message into a container: text as its bytes, anything else as it is. -/
def encodeInto (order : ByteOrder) (c : Container) : Message → Container
  | .text text => c.add (.buffer (Sealed.copied order (Utf8.encode text)))
  | msg => c.push msg

/-- Puts the content of `c` into `other`, its messages before its loose bytes: what is
    left of `c`, then `other`. -/
def encodeAll (order : ByteOrder) (c other : Container) : Container × Container :=
  let (queued, rest) := c.drain
  rest.transferTo (queued.foldl (encodeInto order) other)

/-- The kinds that a handler for text frames asks to see. -/
def events : EventSet := (EventSet.single .messageUpdated).union (.single .flush)

/-- The type of a handler for text frames. -/
def handlerType : String := "rivet_codec::string_codec::StringCodec"

end Conduit.TextFrame
