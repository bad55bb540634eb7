import Conduit.Container
import Conduit.Framing.Line

/-!
# Decoders

Turning accumulated bytes into messages. A decoder looks at the front of a buffer
and makes at most one message of it, passing over the bytes it used. It may keep
a state between attempts.

`Decoder.decodeAll` makes attempts as long as there is something to read and the
decoder gets on. A message that used no byte is an error, since the same bytes
would give it again for ever. So every attempt but the last uses a byte, and the
number of readable bytes bounds the number of attempts.

What was decoded before a failure still counts. A panic is different: it tears
down everything the round has gathered.

A decoder may copy the bytes it uses, and it may as well cut a view out of the
buffer. A view is gathered as a view. Its bytes stay where they are, so what is
done to them until the message is handed on shows in the message. A round that
comes to its end moves the bytes that are left to the front, and only then are
its messages handed on.

## Main definitions

* `Decoded`: What a decoder has made of bytes.
* `Finding`: What one attempt comes to.
* `Decoder`: An attempt, with a name to blame.
* `Decoding`: What a round of attempts comes to.
* `Decoding.left`: The bytes after the round.
* `Decoding.messages`: Its messages, as they are handed on.
* `Decoder.decodeAll`: A round of attempts.
* `Decoder.lines`: Lines as messages.
-/

namespace Conduit

/-- What a decoder has made of bytes: a message of its own, or a view of memory in which the
    bytes stand. -/
inductive Decoded where
  | own (msg : Message)
  | view (b : Buffer)
  deriving Repr, Inhabited

/-- What has been made of bytes, as a message. A view shows what stands in `m`. -/
def Decoded.message (m : Memory) : Decoded → Message
  | own msg => msg
  | view b => .buffer ⟨b, m⟩

/-- What one attempt to decode a message comes to. -/
inductive Finding where
  | message (made : Decoded)
  /-- There is no message yet. -/
  | nothing
  | failed (cause : Error)
  | panicked (cause : Error)
  deriving Repr, Inhabited

/-- One attempt to decode a message: what it comes to, and what it leaves. -/
structure DecoderStep (δ : Type) where
  finding : Finding
  state : δ
  bytes : Sealed
  notices : List Notice := []

/-- Makes messages out of the front of a buffer. -/
structure Decoder (δ : Type) where
  /-- The name of the decoder's type. -/
  typeName : String
  /-- One attempt. After the end of the stream it is told so. -/
  attempt : (atEnd : Bool) → δ → Sealed → DecoderStep δ

/-- How a round of attempts ends. -/
inductive Ending where
  | done
  | failed (cause : Error)
  | panicked (cause : Error)
  deriving Repr, Inhabited

/-- The outcome that an ending stands for. -/
def Ending.outcome : Ending → Except Error Unit
  | done => .ok ()
  | failed cause | panicked cause => .error cause

/-- What a round of attempts comes to. -/
structure Decoding (δ : Type) where
  ending : Ending
  state : δ
  bytes : Sealed
  found : List Decoded := []
  notices : List Notice := []

namespace Decoding

variable {δ : Type}

/-- The bytes after a round. What was read is discarded if the round has come to its end. -/
def left (r : Decoding δ) : Sealed :=
  match r.ending with
  | .done => r.bytes.discardReadBytes
  | _ => r.bytes

/-- The messages of a round. They are handed on after what was read has been discarded. -/
def messages (r : Decoding δ) : List Message := r.found.map (·.message r.left.memory)

end Decoding

namespace Decoder

variable {δ : Type}

/-- Makes attempts while something can be read and the decoder gets on, but no more
    than `limit`. -/
def decodeUpTo (d : Decoder δ) (atEnd : Bool) : (limit : Nat) → δ → Sealed → Decoding δ
  | 0, state, bytes => { ending := .done, state, bytes }
  | limit + 1, state, bytes =>
    if bytes.isReadable = false then { ending := .done, state, bytes }
    else
      let a := d.attempt atEnd state bytes
      let stop := fun ending =>
        { ending, state := a.state, bytes := a.bytes, notices := a.notices : Decoding δ }
      let goOn := fun (found : List Decoded) =>
        let rest := decodeUpTo d atEnd limit a.state a.bytes
        { rest with found := found ++ rest.found, notices := a.notices ++ rest.notices }
      let moved := a.bytes.readableBytes ≠ bytes.readableBytes
      match a.finding with
      | .message made =>
        if moved then goOn [made] else stop (.failed (.illegalState (.decodedNothing d.typeName)))
      | .nothing => if moved then goOn [] else stop .done
      | .failed cause => stop (.failed cause)
      | .panicked cause => stop (.panicked cause)

/-- Makes attempts while something can be read and the decoder gets on. -/
def decodeAll (d : Decoder δ) (atEnd : Bool) (state : δ) (bytes : Sealed) : Decoding δ :=
  d.decodeUpTo atEnd bytes.readableBytes state bytes

/-- The kinds that a handler around a decoder asks to see. -/
def events : EventSet := (EventSet.single .messageUpdated).union (.single .channelInactive)

/-- The type of a handler around a decoder. -/
def handlerType (d : Decoder δ) : String :=
  s!"rivet_codec::byte_to_message_decoder::ByteToMessageCodec<{d.typeName}>"

/-- A line framer as a decoder whose messages are the lines. A line has a memory of its
    own, so what was set aside for it beside the stream is not kept. -/
def lines : Decoder LineFramer where
  typeName := "rivet_codec::byte_to_message_decoder::line_based_frame_decoder::" ++
    "LineBasedFrameDecoder"
  attempt _ framer bytes :=
    let a := framer.decode bytes.buffer bytes.memory
    { finding :=
        match a.result with
        | .ok (some line) => .message (.own (.buffer (Sealed.ofView line a.memory)))
        | .ok none => .nothing
        | .error cause => .failed cause
      state := a.framer
      bytes := { bytes with buffer := a.buffer }
      notices := a.notices }

end Decoder

end Conduit
