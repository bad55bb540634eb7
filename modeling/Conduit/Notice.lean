import Conduit.Error

/-!
# Notices

What the library reports about itself as it runs, apart from results and errors:
events that went nowhere, failures that nobody else would hear of, data that was
dropped. A notice is a cause; its level and wording follow from it.

## Main definitions

* `Level`: How much a notice matters.
* `Notice`: Something reported.
* `Notice.level`, `Notice.text`: How it is written down.
-/

namespace Conduit

/-- How much a notice matters. -/
inductive Level where
  | error
  | warn
  | info
  | debug
  deriving DecidableEq, Repr, Inhabited

/-- The written name of a level. -/
def Level.name : Level → String
  | error => "ERROR"
  | warn => "WARN"
  | info => "INFO"
  | debug => "DEBUG"

/-- Something that the library reports as it runs. -/
inductive Notice where
  /-- A line has passed its limit before its end was seen. -/
  | overLongLine (length : Nat)
  /-- An event fired on a context that is no longer linked. -/
  | removedContext (context : String) (event : EventKind)
  /-- An event fired on a context whose pipeline is gone. -/
  | outlivedContext (context : String) (event : EventKind)
  | activeBeforeOpen
  /-- Data moved past the last inbound handler. -/
  | tailDiscarded (bytes messages : Nat)
  | noInboundHandlers (event : EventKind)
  /-- Nobody handled an exception. -/
  | exceptionReachedTail (cause : Error)
  /-- A handler failed while it was told of a failure. -/
  | exceptionHandlerFailed (context : String) (cause : Error)
  | sinkFailed (event : EventKind) (cause : Error)
  | notAttached (event : EventKind)
  /-- The event loop did not take an event. -/
  | notPosted (cause : Error)
  | rollbackFailed (context : String) (cause : Error)
  /-- One of the two late hooks of a replacement failed; the other did too. -/
  | lateHookFailed (handlerType : String) (hook : Hook) (cause : Error)
  | listenerPanicked
  deriving DecidableEq, Repr, Inhabited

namespace Notice

/-- How much a notice matters. -/
def level : Notice → Level
  | overLongLine _ | removedContext _ _ | outlivedContext _ _ | activeBeforeOpen
  | tailDiscarded _ _ => .debug
  | noInboundHandlers _ | exceptionReachedTail _ | notPosted _ | rollbackFailed _ _
  | lateHookFailed _ _ _ | listenerPanicked => .warn
  | exceptionHandlerFailed _ _ | sinkFailed _ _ | notAttached _ => .error

/-- What a notice says. -/
def text : Notice → String
  | overLongLine length => s!"discarding an over-long line ({length} bytes so far)"
  | removedContext context event =>
    s!"{context} was removed from its pipeline; dropping {event.name}"
  | outlivedContext context event => s!"{context} outlived its pipeline; dropping {event.name}"
  | activeBeforeOpen => "channel_active arrived before channel_open; deferring"
  | tailDiscarded bytes messages =>
    s!"discarding {bytes} bytes and {messages} messages that reached the end of the pipeline"
  | noInboundHandlers event =>
    s!"pipeline contains no upstream handlers; discarding {event.name}"
  | exceptionReachedTail cause =>
    "an exception_caught event was fired, and it reached the end of the pipeline. " ++
      "It usually means the last handler in the pipeline did not handle the exception: " ++
      cause.message
  | exceptionHandlerFailed context cause =>
    s!"{context} threw while handling exception_caught; not firing it again: {cause.message}"
  | sinkFailed event cause => s!"sink failed to handle {event.name}: {cause.message}"
  | notAttached event =>
    s!"has no handler to handle to {event.name}: the pipeline is not attached to a channel"
  | notPosted cause => s!"failed to hand an event over to the event loop: {cause.message}"
  | rollbackFailed context cause =>
    s!"failed to remove {Escape.quoted context} after its after_add() failed: {cause.message}"
  | lateHookFailed handlerType hook cause =>
    s!"{handlerType}.{hook.name}() failed: {cause.message}"
  | listenerPanicked => "a ChannelFuture listener panicked"

end Notice

end Conduit
