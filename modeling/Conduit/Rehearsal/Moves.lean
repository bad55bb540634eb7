import Conduit.Rehearsal.Stage

/-!
# Moves

What a script does with its own context. A move that fails ends the script, and
the callback that the script stands for fails with the same error. A panic goes
further: it also ends whatever script the move was part of, up to the call that
the library made.

A user event is passed on at most once, since passing it on gives it away.

## Main definitions

* `Actor`: Who makes a move, and for what.
* `Scene.makeMove`: A move that is not a step.
-/

namespace Conduit

/-- Takes the texts at the front of the queue, up to the first other message. -/
def Container.takeTexts (c : Container) : List String × Container :=
  let front := c.messages.takeWhile (·.kind = .text)
  (front.filterMap fun msg => match msg with | .text s => some s | _ => none,
    { c with messages := c.messages.drop front.length })

namespace Rehearsal

/-- Who makes a move, and for what. -/
structure Actor where
  id : String
  context : ContextId
  /-- The callback that the script stands for, if it stands for one. -/
  callback : Option Callback := none
  /-- The event of the callback has been passed on. -/
  passedOn : Bool := false

namespace Actor

/-- Where the actor's own data of a side waits. -/
def own (a : Actor) : Side → Place
  | .inbound => .inbound a.context
  | .outbound => .outbound a.context

/-- Where the next data of a side waits. -/
def next (a : Actor) (w : Scene) : Side → Place
  | .inbound => w.nextInbound a.context
  | .outbound => w.nextOutbound a.context

/-- The promise of the request that the script stands for. -/
def promise? (a : Actor) : Option PromiseId :=
  match a.callback with
  | some (.outbound r) => some r.promise
  | _ => none

end Actor

namespace Scene

/-- Does what the actor's callback does by default. -/
def passOn (w : Scene) (call : Caller Stage) (a : Actor) : Actor × Scene :=
  match a.callback with
  | none => (a, w)
  | some (.inbound (.userEventTriggered event)) =>
    if a.passedOn then (a, w)
    else
      ({ a with passedOn := true },
        w.byDefault call a.context (.inbound (.userEventTriggered event)))
  | some callback => (a, w.byDefault call a.context callback)

/-- Takes messages out of the actor's own container. -/
def takeOwn {α : Type} (w : Scene) (a : Actor) (side : Side) (f : Container → α × Container) :
    α × Scene :=
  let (taken, rest) := f (w.container (a.own side))
  (taken, w.setContainer (a.own side) rest)

/-- Writes messages past the actor's context, one after the other. -/
def writeAll (w : Scene) (call : Caller Stage) (a : Actor) (msgs : List Message) : Scene :=
  msgs.foldl (fun w msg => (w.writeFrom call a.context msg).2) w

/-- A move that is not a step: how it ends, and who goes on. -/
def makeMove (w : Scene) (call : Caller Stage) (a : Actor) (move : Move) :
    Ending × Actor × Scene :=
  let own := a.own
  match move with
  | .next => let (a, w) := w.passOn call a; (.done, a, w)
  | .fail cause => (.failed cause, a, w)
  | .panic payload => (.panicked (.ofPanic payload), a, w)
  | .note text => (.done, a, w.reveal a.id "note" (.text text))
  | .info => (.done, a, w.reveal a.id "info" (.context (w.contextView a.context)))
  | .fire event => (.done, a, w.fireFrom call a.context event)
  | .request action keep =>
    let (f, w) := w.requestFrom call a.context action
    let w := Scene.keepPromise w keep f
    (.done, a, w.reveal a.id "request" (w.outcome f))
  | .write msg keep =>
    let (f, w) := w.writeFrom call a.context msg
    let w := Scene.keepPromise w keep f
    (.done, a, w.reveal a.id "write" (w.outcome f))
  | .forward .inbound => (.done, a, w.forwardInbound a.context)
  | .forward .outbound => (.done, a, w.forwardOutbound a.context)
  | .pop side =>
    let (msg, w) := w.takeOwn a side (·.pop)
    (.done, a, w.reveal a.id "pop" (.ofOption .message msg))
  | .popAs side kind =>
    let (msg, w) := w.takeOwn a side (·.popAs kind)
    (.done, a, w.reveal a.id "pop_as" (.ofOption .message msg))
  | .drain side =>
    let (msgs, w) := w.takeOwn a side (·.drain)
    (.done, a, w.reveal a.id "drain" (.messages msgs))
  | .skip side length =>
    let c := w.container (own side)
    match c.bytes.skip length with
    | .ok bytes => (.done, a, w.setContainer (own side) { c with bytes })
    | .error cause => (.failed cause, a, w)
  | .read side length =>
    let c := w.container (own side)
    match c.bytes.readBytes length with
    | .error cause => (.failed cause, a, w)
    | .ok (taken, bytes) =>
      let w : Scene := w.setContainer (own side) { c with bytes }
      (.done, a, w.reveal a.id "read" (.bytes (Excerpt.ofBytes taken.content)))
  | .discard side => (.done, a, w.updateContainer (own side) (·.discardReadBytes))
  | .clear side => (.done, a, w.updateContainer (own side) (·.clear))
  | .push side msg => (.done, a, w.updateContainer (own side) (·.push msg))
  | .add side msg => (.done, a, w.updateContainer (own side) (·.add msg))
  | .state side =>
    (.done, a, w.reveal a.id "state" (.container (w.container (own side)).view))
  | .nextPush side msg => (.done, a, w.updateContainer (a.next w side) (·.push msg))
  | .nextAdd side msg => (.done, a, w.updateContainer (a.next w side) (·.add msg))
  | .nextState side =>
    (.done, a, w.reveal a.id "next_state" (.container (w.container (a.next w side)).view))
  | .echo side =>
    let (msgs, w) := w.takeOwn a side (·.drain)
    (.done, a, w.writeAll call a msgs)
  | .reply side before after =>
    let (texts, w) := w.takeOwn a side (·.takeTexts)
    (.done, a, w.writeAll call a (texts.map fun s => .text (before ++ s ++ after)))
  | .upper side =>
    let (texts, w) := w.takeOwn a side (·.takeTexts)
    let msgs := texts.map fun s => Message.text (s.map Char.toUpper)
    (.done, a, w.updateContainer (a.next w side) (·.pushAll msgs))
  | .complete outcome =>
    match a.promise? with
    | none => (.done, a, w.reveal a.id "complete" .absent)
    | some f =>
      let (settled, w) := w.complete call f outcome
      (.done, a, Scene.reveal w a.id "complete" (.flag settled))
  | .hold keep =>
    match a.promise? with
    | none => (.done, a, w)
    | some f => (.done, a, w.keepPromise (some keep) f)
  | .step _ => (.done, a, w)

end Scene

end Rehearsal

end Conduit
