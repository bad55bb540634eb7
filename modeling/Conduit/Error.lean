import Conduit.Event
import Conduit.Text.Escape

/-!
# Errors

Everything that can go wrong with a buffer, a pipeline or a handler, as causes.

The library raises the named causes. Handlers written against it raise errors of
their own in the same categories, with a text of their choosing, which is what
the constructor `other` of each category is for. The wording of every cause
stands in the `message` functions and nowhere else.

Two constructors wrap another error: `lifecycle`, when a handler's hook failed
while the pipeline was being changed, and `handler`, when a handler failed while
an event was being delivered. `rootCause` looks through both.

## Main definitions

* `Error`: An error of any category.
* `Error.message`: What an error says.
* `Error.rootCause`: The error under all wrappers.
* `Error.chain`: The messages of an error and of everything under it.
-/

namespace Conduit

/-- An index, a length or a capacity that does not fit a buffer. -/
inductive RangeFault where
  /-- A reader index past the writer index. -/
  | readerIndex (value writer : Nat)
  /-- A writer index before the reader index or past the capacity. -/
  | writerIndex (value reader capacity : Nat)
  /-- Two indices that are out of order or past the capacity. -/
  | indices (reader writer capacity : Nat)
  /-- A request for room that the ceiling does not allow. -/
  | growth (writer wanted maxCapacity : Nat)
  /-- A window that reaches past the capacity. -/
  | window (index length capacity : Nat)
  /-- More bytes asked for than can be read. -/
  | unreadable (length readable : Nat)
  /-- More bytes than there is room for before the reader index. -/
  | noRoomAhead (length reader : Nat)
  | other (text : String)
  deriving DecidableEq, Repr, Inhabited

/-- What a range fault says. -/
def RangeFault.message : RangeFault → String
  | readerIndex value writer =>
    s!"reader_index: {value} (expected: 0 <= reader_index <= writer_index({writer}))"
  | writerIndex value reader capacity =>
    s!"writer_index: {value} (expected: reader_index({reader}) <= writer_index <= " ++
      s!"capacity({capacity}))"
  | indices reader writer capacity =>
    s!"reader_index: {reader}, writer_index: {writer} (expected: 0 <= reader_index <= " ++
      s!"writer_index <= capacity({capacity}))"
  | growth writer wanted maxCapacity =>
    s!"writer_index({writer}) + min_writable({wanted}) exceeds max_capacity({maxCapacity})"
  | window index length capacity =>
    s!"index: {index}, length: {length} (expected: range(0, {capacity}))"
  | unreadable length readable =>
    s!"no data to read: length {length} exceeds readable_bytes({readable})"
  | noRoomAhead length reader =>
    s!"not enough room ahead: length {length} exceeds reader_index({reader})"
  | other text => text

/-- A structural precondition that does not hold. -/
inductive ArgumentFault where
  | duplicateName (name : String)
  | emptyName
  /-- The handler's event set is empty. -/
  | noEvents (handlerType : String)
  /-- The total length of several sources is past the default ceiling. -/
  | totalOverflow
  /-- Sources with bytes to read differ in byte order. -/
  | mixedOrder
  | other (text : String)
  deriving DecidableEq, Repr, Inhabited

/-- What an argument fault says. -/
def ArgumentFault.message : ArgumentFault → String
  | duplicateName name => s!"Duplicate handler name: {name}"
  | emptyName => "handler name must not be empty"
  | noEvents handlerType => s!"{handlerType} handles neither inbound nor outbound events"
  | totalOverflow => "the total length of the sources overflows"
  | mixedOrder => "inconsistent byte order"
  | other text => text

/-- A handler that is not there. -/
inductive AbsenceFault where
  | emptyPipeline
  /-- No element has this name. -/
  | named (name : String)
  deriving DecidableEq, Repr, Inhabited

/-- What an absence says. -/
def AbsenceFault.message : AbsenceFault → String
  | emptyPipeline => "pipeline is empty"
  | named name => name

/-- An operation that the current state does not allow. -/
inductive StateFault where
  | alreadyAttached
  /-- The context has been unlinked from its pipeline. -/
  | removed (context : String)
  /-- The context's pipeline is gone. -/
  | outlived (context : String)
  /-- A decoder gave a message without consuming a byte. -/
  | decodedNothing (decoderType : String)
  | other (text : String)
  deriving DecidableEq, Repr, Inhabited

/-- What a state fault says. -/
def StateFault.message : StateFault → String
  | alreadyAttached => "pipeline is attached already"
  | removed context => s!"{context} was removed from its pipeline"
  | outlived context => s!"{context} outlived its pipeline"
  | decodedNothing decoderType =>
    s!"{decoderType}.decode() did not read anything but decoded a message."
  | other text => text

/-- The four moments at which a handler learns of its own linking and unlinking. -/
inductive Hook where
  | beforeAdd
  | afterAdd
  | beforeRemove
  | afterRemove
  deriving DecidableEq, Repr, Inhabited

/-- The written name of a hook. -/
def Hook.name : Hook → String
  | beforeAdd => "before_add"
  | afterAdd => "after_add"
  | beforeRemove => "before_remove"
  | afterRemove => "after_remove"

/-- A hook that failed, and what became of the change it was part of. -/
inductive LifecycleFault where
  /-- `before_add` failed, so the handler was not added. -/
  | notAdded (handlerType : String)
  /-- `after_add` failed and the handler was taken out again. -/
  | addUndone (handlerType : String)
  /-- `after_add` failed and taking the handler out failed too. -/
  | addStuck (handlerType : String)
  /-- `before_remove` failed, so the handler was not removed. -/
  | notRemoved (handlerType : String)
  /-- `before_remove` or `before_add` failed, so nothing was replaced. -/
  | notReplaced (handlerType : String) (hook : Hook)
  /-- A hook failed after the change had been made. -/
  | late (handlerType : String) (hook : Hook)
  /-- Both late hooks of a replacement failed. -/
  | lateBoth (oldType newType : String)
  | other (text : String)
  deriving DecidableEq, Repr, Inhabited

/-- What a lifecycle fault says. -/
def LifecycleFault.message : LifecycleFault → String
  | notAdded t => s!"{t}.before_add() has thrown an exception; not adding."
  | addUndone t => s!"{t}.after_add() has thrown an exception; removed."
  | addStuck t => s!"{t}.after_add() has thrown an exception; also failed to remove."
  | notRemoved t => s!"{t}.before_remove() has thrown an exception; not removing."
  | notReplaced t hook => s!"{t}.{hook.name}() has thrown an exception; not replacing."
  | late t hook => s!"{t}.{hook.name}() has thrown an exception."
  | lateBoth old new => s!"Both {old}.after_remove() and {new}.after_add() failed; see logs."
  | other text => text

/-- Where and how a byte string stops being UTF-8. The length is that of the
    malformed piece, and absent when the string ends within a character. -/
structure Utf8Fault where
  index : Nat
  length : Option Nat
  deriving DecidableEq, Repr, Inhabited

/-- What a UTF-8 fault says. -/
def Utf8Fault.message (fault : Utf8Fault) : String :=
  match fault.length with
  | some n => s!"invalid utf-8 sequence of {n} bytes from index {fault.index}"
  | none => s!"incomplete utf-8 byte sequence from index {fault.index}"

/-- Bytes that do not form the frame they should. -/
inductive DecodeFault where
  /-- A line of `length` bytes where at most `maximum` are allowed. -/
  | overLong (length maximum : Nat)
  /-- A frame that is not UTF-8 text. -/
  | notText (fault : Utf8Fault)
  | other (text : String)
  deriving DecidableEq, Repr, Inhabited

/-- What a decode fault says. -/
def DecodeFault.message : DecodeFault → String
  | overLong length maximum =>
    s!"frame length ({length}) exceeds the allowed maximum ({maximum})"
  | notText fault => s!"invalid UTF-8 frame: {fault.message}"
  | other text => text

/-- An error of any category. -/
inductive Error where
  | range (fault : RangeFault)
  | argument (fault : ArgumentFault)
  | noSuchElement (fault : AbsenceFault)
  | illegalState (fault : StateFault)
  /-- A lifecycle hook failed with `source`. -/
  | lifecycle (fault : LifecycleFault) (source : Error)
  /-- A handler failed with `source` while `event` was delivered to it. -/
  | handler (event : EventKind) (handler : String) (source : Error)
  /-- An outbound operation found nothing to carry it out. -/
  | noHandler (operation : String)
  | decode (fault : DecodeFault)
  /-- The channel or the event loop has been closed. -/
  | closed
  /-- A failure of the transport below. -/
  | io (text : String)
  /-- A failure of unknown origin, such as a panic. -/
  | unknown (text : String)
  deriving DecidableEq, Repr, Inhabited

namespace Error

/-- What an error says. -/
def message : Error → String
  | range fault => fault.message
  | argument fault => fault.message
  | noSuchElement fault => fault.message
  | illegalState fault => fault.message
  | lifecycle fault _ => fault.message
  | handler event name source => s!"{name} threw during {event.name}: {source.message}"
  | noHandler operation => s!"has no handler to handle to {operation}"
  | decode fault => fault.message
  | closed => "channel closed"
  | io text => s!"i/o error: {text}"
  | unknown text => text

/-- The error under all lifecycle and handler wrappers. -/
def rootCause : Error → Error
  | lifecycle _ source => source.rootCause
  | handler _ _ source => source.rootCause
  | error => error

/-- The message of an error, then those of everything it wraps. A transport
    failure wraps its bare text. -/
def chain : Error → List String
  | lifecycle fault source => fault.message :: source.chain
  | handler event name source => (handler event name source).message :: source.chain
  | io text => [(io text).message, text]
  | error => [error.message]

/-- An error in the notation of nested constructors. -/
def debug : Error → String
  | range fault => s!"Range({Escape.quoted fault.message})"
  | argument fault => s!"Argument({Escape.quoted fault.message})"
  | noSuchElement fault => s!"NoSuchElement({Escape.quoted fault.message})"
  | illegalState fault => s!"IllegalState({Escape.quoted fault.message})"
  | lifecycle fault source =>
    s!"Lifecycle \x7b message: {Escape.quoted fault.message}, source: {source.debug} \x7d"
  | handler event name source =>
    s!"Handler \x7b event: {event.debugName}, handler: {Escape.quoted name}, " ++
      s!"source: {source.debug} \x7d"
  | noHandler operation => s!"NoHandler({Escape.quoted operation})"
  | decode fault => s!"Decode({Escape.quoted fault.message})"
  | closed => "Closed"
  | io text => s!"Io(Custom \x7b kind: Other, error: {Escape.quoted text} \x7d)"
  | unknown text => s!"Unknown({Escape.quoted text})"

/-- What a panic carries. -/
inductive Payload where
  /-- A text. -/
  | text (text : String)
  /-- Anything else. -/
  | opaqueValue
  deriving DecidableEq, Repr, Inhabited

/-- A caught panic as an error: its text, if it carries one. -/
def ofPanic : Payload → Error
  | .text text => unknown text
  | .opaqueValue => unknown "unknown panic"

end Error

end Conduit
