import Conduit.Pipeline.Turn
import Conduit.Rehearsal.Decoders
import Conduit.Rehearsal.Moves

/-!
# Steps

What is done to a scene from outside: changing the pipeline, looking at it, binding
it to channels, asking things of it, running its event loop, and using channels
and promises that were kept.

Most steps are about the current pipeline or about a channel, and say so if there
is none. Each holds what it is about until it is done. What else a step names has to
be there: a step that names a context, a handler or a promise that nobody kept ends
in a panic.

## Main definitions

* `Scene.onCurrent`, `Scene.onChannel`: What a step is about.
* `Scene.edit`, `Scene.remove`: Changing the pipeline.
* `Scene.look`: Seeing something.
* `Scene.useSlots`: Slots.
* `Scene.bind`: Binding and letting go.
* `Scene.ask`: Asking something of the pipeline.
* `Scene.useLoop`: The event loop.
* `Scene.useChannel`, `Scene.useEmbedded`: Channels.
* `Scene.usePromise`: Promises.
-/

namespace Conduit.Rehearsal

namespace Scene

/-- The answer of a step that has a reply. -/
def replied (r : Reply × Scene) : Answer × Scene := (.ok r.1, r.2)

/-- Does something with the current pipeline, if there is one. -/
def onCurrent (w : Scene) (f : PipelineId → Scene → Answer × Scene) : Answer × Scene :=
  match w.user.current with
  | none => (.ok .noPipeline, w)
  | some p =>
    let (answer, w) := f p (w.hold (.pipeline p))
    (answer, w.release (.pipeline p))

/-- Does something with a channel that was kept, if it was. -/
def onChannel (w : Scene) (channel : String) (f : ChannelId → Scene → Answer × Scene) :
    Answer × Scene :=
  match w.user.keptChannels.find? channel with
  | none => (.ok .noChannel, w)
  | some ch =>
    let (answer, w) := f ch (w.hold (.channel ch))
    (answer, w.release (.channel ch))

/-! ### Changing the pipeline -/

/-- Numbers a plan, and makes the handler that follows it. -/
def newHandler (w : Scene) (plan : HandlerPlan) : Handler × Scene :=
  (plan.handler w.user.handlers.length,
    w.onStage fun s => { s with handlers := s.handlers ++ [plan] })

/-- The reply to a change that takes a handler out: the events of that handler. -/
def removalReply (result : Except Error ContextId) (w : Scene) : Reply :=
  match result with
  | .ok c => .events (w.context c).handler.events
  | .error cause => .failed cause

/-- Adds a handler to the pipeline. -/
def add (w : Scene) (call : Caller Stage) (p : PipelineId) (position : Position)
    (name : String) (plan : HandlerPlan) : Reply × Scene :=
  let (h, w) := w.newHandler plan
  let (outcome, w) := World.add w call p position name h
  (.ofOutcome outcome, w)

/-- Replaces a handler of the pipeline. -/
def replace (w : Scene) (call : Caller Stage) (p : PipelineId) (old new : String)
    (plan : HandlerPlan) : Reply × Scene :=
  let (h, w) := w.newHandler plan
  let (result, w) := World.replace w call p old new h
  (removalReply result w, w)

/-- Takes a handler out of the pipeline. -/
def remove (w : Scene) (call : Caller Stage) (p : PipelineId) : Removal → Answer × Scene
  | .named name =>
    let (result, w) := World.remove w call p name
    (.ok (removalReply result w), w)
  | .first =>
    let (result, w) := w.removeFirst call p
    (.ok (removalReply result w), w)
  | .last =>
    let (result, w) := w.removeLast call p
    (.ok (removalReply result w), w)
  | .handler handler =>
    match w.user.keptHandlers.find? handler with
    | none => (Misstep.unknownHandler.answer, w)
    | some c =>
      match w.removeHandler call p c with
      | (.ok _, w) => (.ok .done, w)
      | (.error cause, w) => (.ok (.failed cause), w)

/-! ### Looking -/

/-- The name of the script that the handler of a context follows, if it follows one. -/
def scriptOf (w : Scene) (c : ContextId) : Option String :=
  match (w.context c).handler.role with
  | .custom number =>
    match w.user.handlers[number]? with
    | some (.script id _ _) => some id
    | _ => none
  | _ => none

/-- The first context whose handler is of a type. -/
def firstOfType (w : Scene) (p : PipelineId) (typeName : String) : Option ContextId :=
  (w.chain p).toList.find? fun c => w.handlerType c == typeName

/-- The events of the handler of a context, if there is one. -/
def eventsReply (w : Scene) (found : Option ContextId) : Reply :=
  .ofOption (fun c => .events (w.context c).handler.events) found

/-- A context that was looked for, to be kept. -/
def contextReply (w : Scene) (found : Option ContextId) (keep : String) : Reply × Scene :=
  match found with
  | none => (.absent, w)
  | some c => (.context (w.contextView c), w.keepContext keep c)

/-- A context as a printed structure. -/
def contextDebug (w : Scene) (c : ContextId) : String :=
  let x := w.context c
  let name := Escape.quoted x.name
  let type := Escape.quoted x.handler.typeName
  let events := x.handler.events.debug
  s!"ChannelHandlerContext \x7b name: {name}, handler: {type}, events: {events}, " ++
    s!"removed: {x.removed} \x7d"

/-- A pipeline as a printed structure. -/
def pipelineDebug (w : Scene) (p : PipelineId) : String :=
  let names := (w.chain p).toList.map fun c => Escape.quoted (w.context c).name
  let listed := ", ".intercalate names
  let attached := (w.pipeline p).attachment.isSome
  s!"ChannelPipeline \x7b handlers: [{listed}], attached: {attached} \x7d"

/-- Sees something about a pipeline. -/
def lookAt (w : Scene) (p : PipelineId) : Look → Reply × Scene
  | .names => (.texts ((w.chain p).toList.map fun c => (w.context c).name), w)
  | .events =>
    (.list ((w.chain p).toList.map fun c =>
      let x := w.context c
      .list [.text x.name, .events x.handler.events]), w)
  | .length => (.list [.number (w.chain p).length, .flag (w.chain p).isEmpty], w)
  | .named name => (w.eventsReply ((w.chain p).find? name), w)
  | .first => (w.eventsReply (w.chain p).head, w)
  | .last => (w.eventsReply (w.chain p).tail, w)
  | .context name keep => w.contextReply ((w.chain p).find? name) keep
  | .firstContext keep => w.contextReply (w.chain p).head keep
  | .lastContext keep => w.contextReply (w.chain p).tail keep
  | .grab name keep =>
    let found := match name with
      | some name => (w.chain p).find? name
      | none => (w.chain p).toList.find? fun c => (w.scriptOf c).isSome
    match found.bind fun c => (w.scriptOf c).map (c, ·) with
    | none => (.absent, w)
    | some (c, id) => (.text id, w.keepHandler keep c)
  | .ofKind .script =>
    (.ofOption .text ((w.chain p).toList.findSome? w.scriptOf), w)
  | .ofKind .plain => (w.eventsReply (w.firstOfType p "Plain"), w)
  | .ofKind .text => (.flag (w.firstOfType p TextFrame.handlerType).isSome, w)
  | .ofKind .lines => (.flag (w.firstOfType p Decoder.lines.handlerType).isSome, w)
  | .debug => (.text (w.pipelineDebug p), w)
  | .contextOf .. | .info _ | .contextDebug _ => (.absent, w)

/-- Sees something about the current pipeline, or about something that was kept. -/
def look (w : Scene) (l : Look) : Answer × Scene :=
  match l with
  | .info context =>
    match w.user.keptContexts.find? context with
    | none => (Misstep.unknownContext.answer, w)
    | some c => (.ok (.context (w.contextView c)), w)
  | .contextDebug context =>
    match w.user.keptContexts.find? context with
    | none => (Misstep.unknownContext.answer, w)
    | some c => (.ok (.text (w.contextDebug c)), w)
  | .contextOf handler keep =>
    w.onCurrent fun p w =>
      match w.user.keptHandlers.find? handler with
      | none => (Misstep.unknownHandler.answer, w)
      | some c => replied (w.contextReply ((w.chain p).toList.find? (· == c)) keep)
  | l => w.onCurrent fun p w => replied (w.lookAt p l)

/-! ### Slots -/

/-- What a slot holds. -/
def slotReply : Slot → Reply
  | .text value => .text value
  | .number value => .number value.toNat

/-- Uses slots: the reply, and the slots afterwards. -/
def slotUse (slots : Dict String Slot) : SlotUse → Reply × Dict String Slot
  | .set key value => (.flag (slots.contains key), slots.insert key value)
  | .getText key =>
    match slots.find? key with
    | some (.text value) => (.text value, slots)
    | _ => (.absent, slots)
  | .getNumber key =>
    match slots.find? key with
    | some (.number value) => (.number value.toNat, slots)
    | _ => (.absent, slots)
  | .remove key => (.ofOption slotReply (slots.find? key), slots.erase key)
  | .contains key => (.flag (slots.contains key), slots)
  | .debug =>
    let keys := ", ".intercalate (slots.keys.map Escape.quoted)
    (.text ("\x7b" ++ keys ++ "\x7d"), slots)

/-- Uses the slots of a context that was kept, or of the current pipeline. Without a
    current pipeline there are none. -/
def useSlots (w : Scene) (context : Option String) (use : SlotUse) : Answer × Scene :=
  w.onCurrent fun p w =>
    match context with
    | some name =>
      match w.user.keptContexts.find? name with
      | none => (Misstep.unknownContext.answer, w)
      | some c =>
        let (reply, slots) := slotUse (w.context c).slots use
        (.ok reply, w.updateContext c ({ · with slots := slots }))
    | none =>
      let (reply, slots) := slotUse (w.pipeline p).slots use
      (.ok reply, w.updatePipeline p ({ · with slots := slots }))

/-! ### Binding -/

/-- Numbers a plan, and makes the sink that follows it. -/
def newSink (w : Scene) (plan : SinkPlan) : Sink × Scene :=
  (.custom w.user.sinks.length, w.onStage fun s => { s with sinks := s.sinks ++ [plan] })

/-- The sink that follows a plan, or one that refuses everything. -/
def sinkFor (w : Scene) (plan : Option SinkPlan) : Sink × Scene :=
  match plan with
  | some plan => w.newSink plan
  | none => (.discarding, w)

/-- Makes another pipeline the current one, or none. -/
def setCurrent (w : Scene) (current : Option PipelineId) : Scene :=
  let w : Scene := match w.user.current with
    | some p => w.release (.pipeline p)
    | none => w
  let w : Scene := match current with
    | some p => w.hold (.pipeline p)
    | none => w
  w.onStage ({ · with current := current })

/-- Goes on with a pipeline that is new. -/
def newPipeline (w : Scene) : Scene :=
  let p := w.pipelines.length
  let w : Scene := { w with pipelines := w.pipelines ++ [{}] }
  w.setCurrent (some p)

/-- Lets go of the current pipeline and of all channels. -/
def dropPipeline (w : Scene) : Scene :=
  let w : Scene := w.user.keptChannels.foldl (fun w (_, ch) => w.release (.channel ch)) w
  Scene.setCurrent (w.onStage ({ · with keptChannels := [] })) none

/-- Binds the current pipeline to something. -/
def bindPipeline (w : Scene) (call : Caller Stage) (p : PipelineId) : Binding → Reply × Scene
  | .embedded channel =>
    match w.openEmbedded call p w.user.loop.kind with
    | (.ok ch, w) => (.done, Scene.keepChannel w channel ch)
    | (.error cause, w) => (.failed cause, w)
  | .fixed channel identity isOpen isActive plan =>
    let (sink, w) := w.sinkFor plan
    let (ch, w) := w.newChannel
      { pipeline := p, loop := w.user.loop.kind, backing := .fixed identity isOpen isActive }
    let (outcome, w) := w.attach p ch sink
    (.ofOutcome outcome, Scene.keepChannel w channel ch)
  | .detach => (.done, w.detach p)
  | .status =>
    (.status
      { isAttached := (w.pipeline p).attachment.isSome
        hasChannel := (w.channelOf p).isSome
        inLoop := w.inLoop (w.loopOf p)
        sinkBuffer := (w.container (.sink p)).view }, w)
  | .newPipeline | .dropPipeline | .dropChannel _ | .attachAgain .. => (.absent, w)

/-- Binds something, or lets go of it. -/
def bind (w : Scene) (call : Caller Stage) (b : Binding) : Answer × Scene :=
  match b with
  | .newPipeline => (.ok .done, w.newPipeline)
  | .dropPipeline => (.ok .done, w.dropPipeline)
  | .dropChannel channel =>
    match w.user.keptChannels.find? channel with
    | none => (.ok (.flag false), w)
    | some ch =>
      let w : Scene := w.release (.channel ch)
      (.ok (.flag true), w.onStage fun s => { s with keptChannels := s.keptChannels.erase channel })
  | .attachAgain channel plan =>
    w.onChannel channel fun ch w =>
      let (sink, w) := w.newSink plan
      let (outcome, w) := w.attach (w.channel ch).pipeline ch sink
      (.ok (.ofOutcome outcome), w)
  | b => w.onCurrent fun p w => replied (w.bindPipeline call p b)

/-! ### Asking -/

/-- Keeps the promise of something asked, and tells its outcome so far. -/
def promised (asked : PromiseId × Scene) (keep : Option String) : Reply × Scene :=
  (Scene.outcome asked.2 asked.1, Scene.keepPromise asked.2 keep asked.1)

/-- Asks something of a pipeline. -/
def ask (w : Scene) (call : Caller Stage) (p : PipelineId) : Asking → Reply × Scene
  | .fire event => (.done, w.fire call p event)
  | .request action keep => promised (w.request call p action) keep
  | .write msg keep => promised (w.write call p msg) keep
  | .feed msg => (.done, w.feed call p msg)

/-! ### The event loop -/

/-- More tasks than a turn of the event loop ever has. -/
def allTasks : Nat := 1000000

/-- Waits for a prompt event loop to run dry, where that can be waited for: not on its own
    thread, and not while that thread is waiting itself. -/
def awaitLoop (w : Scene) (call : Caller Stage) : Scene :=
  if w.user.loop = .prompt && !w.inQueueThread && !w.user.isBlocked then
    (w.runTasks call allTasks).2
  else w

/-- Does something on another thread, and waits for it. Nothing can tell threads apart
    but a prompt event loop. -/
def elsewhere {α : Type} (w : Scene) (f : Scene → α × Scene) : α × Scene :=
  if w.user.loop = .prompt && w.inQueueThread then
    let w : Scene := { w with inQueueThread := false }
    let (x, w) := f (w.onStage ({ · with isBlocked := true }))
    let w : Scene := { w with inQueueThread := true }
    (x, w.onStage ({ · with isBlocked := false }))
  else f w

/-- Uses the event loop. -/
def useLoop (w : Scene) (call : Caller Stage) : LoopUse → Answer × Scene
  | .run limit =>
    if w.user.loop = .manual then
      let (n, w) := w.runTasks call (limit.getD allTasks)
      (.ok (.number n), w)
    else (.ok .absent, w)
  | .queued =>
    (.ok (if w.user.loop = .manual then .number w.queue.pending.length else .absent), w)
  | .enter inside =>
    (.ok .done, if w.user.loop = .manual then { w with inQueueThread := inside } else w)
  | .shutdown =>
    -- The first one waits for what was accepted before.
    (.ok .done,
      if w.user.loop = .inline || w.queue.isShutdown then w
      else awaitLoop { w with queue := w.queue.shutdown } call)
  | .post tag =>
    w.onCurrent fun p w =>
      let number := w.user.tasks.length
      let w := w.onStage fun s => { s with tasks := s.tasks ++ [tag] }
      let loop := w.loopOf p
      let inside := w.inLoop loop
      let (outcome, w) := w.post call loop (.custom number)
      (.ok (.list [.ofOutcome outcome, .flag inside, .flag false]), w)

/-! ### Channels -/

/-- What can be seen of a channel. -/
def channelView (w : Scene) (ch : ChannelId) : ChannelView where
  isOpen := w.isOpen ch
  isActive := w.isActive ch
  localAddress := w.localAddress ch
  remoteAddress := w.remoteAddress ch
  isAttached := (w.channelOf (w.channel ch).pipeline).map (w.sameChannel ch)

/-- Uses the transport of an embedded channel, which keeps what it is given. -/
def useTransport (w : Scene) (call : Caller Stage) (p : PipelineId) (t : TransportId) :
    TransportUse → Reply × Scene
  | .receive msg => (.done, w.receive call p msg)
  | .send msg keep => promised (w.write call p msg) keep
  | .take side kind =>
    let (msg, w) := w.take t side kind
    (.ofOption .message msg, w)
  | .takeBytes side =>
    let (taken, w) := w.takeBytes t side
    (.buffer taken.snapshot, w)
  | .exceptions =>
    let (causes, w) := w.takeExceptions t
    (.list (causes.map .failed), w)
  | .check =>
    let (outcome, w) := w.checkException t
    (.ofOutcome outcome, w)
  | .userEvents =>
    let (msgs, w) := w.takeUserEvents t
    (.messages msgs, w)
  | .sunk => (.texts ((w.transport t).sunk.map (·.name)), w)
  | .finish =>
    let (left, w) := w.finish call p t
    (.flag left, w)

/-- Uses the transport of a channel that was kept, which has to be an embedded one. -/
def useEmbedded (w : Scene) (call : Caller Stage) (channel : String) (use : TransportUse) :
    Answer × Scene :=
  w.onChannel channel fun ch w =>
    let c := w.channel ch
    match c.backing with
    | .embedded t => replied (w.useTransport call c.pipeline t use)
    | .fixed .. => (Misstep.notEmbedded.answer, w)

/-- Uses a channel that was kept. -/
def useChannel (w : Scene) (call : Caller Stage) (channel : String) (use : ChannelUse) :
    Answer × Scene :=
  w.onChannel channel fun ch w =>
    let p := (w.channel ch).pipeline
    replied <| match use with
      | .state => (.channel (w.channelView ch), w)
      | .write msg keep => promised (w.write call p msg) keep
      | .flush keep => promised (w.request call p .flush) keep
      | .close keep => promised (w.request call p .close) keep

/-! ### Promises -/

/-- The number of a waker. -/
def wakerNumber (w : Scene) (waker : String) : WakerId × Scene :=
  match w.user.wakers.idxOf? waker with
  | some n => (n, w)
  | none => (w.user.wakers.length, w.onStage fun s => { s with wakers := s.wakers ++ [waker] })

/-- How often each waker was woken. -/
def wakeCounts (w : Scene) : Reply :=
  .wakes (w.user.wakers.zipIdx.map fun (name, n) => (name, w.woken.count n))

/-- Makes a promise under a name, with an outcome or without. -/
def makePromise (w : Scene) (call : Caller Stage) (name : String) (outcome : Option Outcome) :
    Reply × Scene :=
  let (f, w) := w.newPromise
  let w := match outcome with
    | some outcome => (w.complete call f outcome).2
    | none => w
  promised (f, w) (some name)

/-- Uses a promise that was kept. -/
def useKept (w : Scene) (call : Caller Stage) (f : PromiseId) : PromiseUse → Reply × Scene
  | .settle outcome =>
    let (settled, w) := w.complete call f outcome
    (.flag settled, w)
  | .state => (.promise (w.promise f).outcome, w)
  | .wait =>
    (match (w.promise f).outcome with
      | some outcome => .ofOutcome outcome
      | none => .text "would block", w)
  | .waitBriefly =>
    let w := if (w.promise f).outcome.isSome then w else w.awaitLoop call
    (w.outcome f, w)
  | .waitWhile outcome =>
    let (settled, w) := w.elsewhere fun w => w.complete call f outcome
    (.list [Scene.outcome w f, .flag settled], w)
  | .poll waker =>
    let (n, w) := w.wakerNumber waker
    let (outcome, x) := (w.promise f).poll n
    (.ofOutcome? outcome, w.setPromise f x)
  | .closeOn channel onlyFailure =>
    match w.user.keptChannels.find? channel with
    | none => (.noChannel, w)
    | some ch =>
      (.done, w.listen call f (if onlyFailure then .closeOnFailure ch else .closeOnComplete ch))
  | .debug => (.text (w.promise f).debug, w)
  | .make | .settled _ | .clone _ => (.absent, w)

/-- Uses a promise that was kept, or makes one. -/
def usePromise (w : Scene) (call : Caller Stage) (name : String) (use : PromiseUse) :
    Answer × Scene :=
  match use with
  | .make => replied (w.makePromise call name none)
  | .settled outcome => replied (w.makePromise call name (some outcome))
  | .clone source =>
    match w.user.keptPromises.find? source with
    | none => (Misstep.unknownPromise.answer, w)
    | some f => replied (promised (f, w) (some name))
  | use =>
    match w.user.keptPromises.find? name with
    | none => (Misstep.unknownPromise.answer, w)
    | some f => replied (w.useKept call f use)

/-- Adds a listener to a promise that was kept. -/
def addListener (w : Scene) (call : Caller Stage) (name : String) (plan : ListenerPlan) :
    Answer × Scene :=
  match w.user.keptPromises.find? name with
  | none => (Misstep.unknownPromise.answer, w)
  | some f =>
    let number := w.user.listeners.length
    let w := w.onStage fun s => { s with listeners := s.listeners ++ [plan] }
    (.ok .done, w.listen call f (.custom number))

end Scene

end Conduit.Rehearsal
