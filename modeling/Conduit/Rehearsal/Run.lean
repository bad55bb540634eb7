import Conduit.Rehearsal.Sinks
import Conduit.Rehearsal.Steps

/-!
# Rehearsals

Scripts at work. Steps and moves run by recursion on the plan. What the library
calls in the meantime, and that a script answers, starts a script of its own.

A panic that no call of the library is there to catch ends the rehearsal.

## Main definitions

* `Scene.takeStep`, `Scene.makeMoves`: Steps and scripts.
* `Scene.follow`: What the scripts answer to the library.
* `Scene.caller`: The library and the scripts together.
* `perform`: A rehearsal from beginning to end.
-/

namespace Conduit.Rehearsal

namespace Scene

/-! ### Steps and scripts -/

mutual

/-- Takes a step. -/
def takeStep (call : Caller Stage) (w : Scene) : Step → Answer × Scene
  | .visit context moves =>
    match w.user.keptContexts.find? context with
    | none => (Misstep.unknownContext.answer, w)
    | some c =>
      match makeMoves call { id := "ctx", context := c } w moves with
      | (.done, w) => (.ok .done, w)
      | (.failed cause, w) => (.ok (.failed cause), w)
      | (.panicked cause, w) => (.error cause, w)
  | .add position name plan =>
    w.onCurrent fun p w => replied (w.add call p position name plan)
  | .replace old new plan => w.onCurrent fun p w => replied (w.replace call p old new plan)
  | .remove removal => w.onCurrent fun p w => w.remove call p removal
  | .look l => w.look l
  | .slots context use => w.useSlots context use
  | .bind b => w.bind call b
  | .ask asking => w.onCurrent fun p w => replied (w.ask call p asking)
  | .callSink cause keep => w.onCurrent fun p w => trySink call w p cause keep
  | .loop use => w.useLoop call use
  | .channel channel use => w.useChannel call channel use
  | .transport channel use => w.useEmbedded call channel use
  | .promise name use => w.usePromise call name use
  | .wakes => (.ok w.wakeCounts, w)
  | .listen name id steps panics => w.addListener call name ⟨id, steps, panics⟩

/-- Makes the moves of a script, until one ends it. -/
def makeMoves (call : Caller Stage) (a : Actor) (w : Scene) : List Move → Ending × Scene
  | [] => (.done, w)
  | .step step :: moves =>
    match takeStep call w step with
    | (.error cause, w) => (.panicked cause, w)
    | (.ok reply, w) => makeMoves call a (w.reveal a.id "step" reply) moves
  | move :: moves =>
    match w.makeMove call a move with
    | (.done, a, w) => makeMoves call a w moves
    | (ending, _, w) => (ending, w)

end

/-- Takes the steps of a listener, and shows what each comes to. -/
def takeSteps (call : Caller Stage) (id : String) (w : Scene) : List Step → Outcome × Scene
  | [] => (.ok (), w)
  | step :: steps =>
    match takeStep call w step with
    | (.error cause, w) => (.error cause, w)
    | (.ok reply, w) => takeSteps call id (w.reveal id "step" reply) steps

/-! ### What the scripts answer -/

/-- The moves for a call of a callback, and a scene that has counted the call. -/
def nextMoves (w : Scene) (number : Nat) (callback : String)
    (parts : List (String × List (List Move))) : Option (List Move) × Scene :=
  match (parts.lookup callback).getD [] with
  | [] => (none, w)
  | part =>
    -- The call is counted before its moves are made, since they may lead back here.
    let n := (w.user.calls.find? (number, callback)).getD 0
    (part[min n (part.length - 1)]?,
      w.onStage fun s => { s with calls := s.calls.insert (number, callback) (n + 1) })

/-- What a handler that follows a plan does when it is called. -/
def handlerFollows (call : Caller Stage) (w : Scene) (number : Nat) (c : ContextId)
    (callback : Callback) : Outcome × Scene :=
  match w.user.handlers[number]? with
  | some (.script id _ parts) =>
    let w := w.record (.called id callback.name (.ofCallback callback))
    match w.nextMoves number callback.name parts with
    | (none, w) => (.ok (), w.byDefault call c callback)
    | (some moves, w) =>
      let (ending, w) := makeMoves call { id, context := c, callback := some callback } w moves
      (ending.outcome, w)
  | some .bytewise => w.decoderCalled call c Rehearsal.bytewise () (fun _ w => w) callback
  | some .pairs => w.decoderCalled call c Rehearsal.pairs () (fun _ w => w) callback
  | _ => (.ok (), w.byDefault call c callback)

/-- What a listener that follows a plan does. -/
def listenerFollows (call : Caller Stage) (w : Scene) (plan : ListenerPlan) (f : PromiseId) :
    Outcome × Scene :=
  let w := w.record (.heard plan.id (w.promise f).outcome)
  match takeSteps call plan.id w plan.steps with
  | (.error cause, w) => (.error cause, w)
  | (.ok _, w) => ((endEarly none plan.panics).outcome, w)

/-- What the scripts answer when the library calls. -/
def follow (call : Caller Stage) : Caller Stage
  | .handler c callback, w =>
    match (w.context c).handler.role with
    | .custom number => handlerFollows call w number c callback
    | _ => (.ok (), w.byDefault call c callback)
  | .sink p (.custom number) ask, w =>
    let (ending, w) := sinkFollows call w number p ask
    (ending.outcome, w)
  | .listener (.custom number) f, w =>
    match w.user.listeners[number]? with
    | some plan => listenerFollows call w plan f
    | none => (.ok (), w)
  | .task number, w => (.ok (), record w (.ran ((w.user.tasks[number]?).getD "")))
  | _, w => (.ok (), w)

/-- How deep calls can nest in a rehearsal. -/
def depth : Nat := 1000000

/-- The library and the scripts together. -/
def caller : Caller Stage := World.respond follow depth

/-! ### Rehearsals -/

/-- An empty stage, with one pipeline. -/
def new (loop : StageLoop) (showsNotices : Bool) : Scene :=
  newPipeline { user := { loop, showsNotices } }

/-- The outcome of the promise that a step kept, if it was not settled at first. -/
def laterReply (w : Scene) (step : Step) (reply : Reply) : Reply :=
  match reply, step.promiseKept with
  | .pending, some name =>
    match w.user.keptPromises.find? name with
    | some f => w.outcome f
    | none => reply
  | reply, _ => reply

/-- Takes a step, and lets a prompt event loop run after it. -/
def takeTurn (w : Scene) (step : Step) : Answer × Scene :=
  match takeStep caller w step with
  | (.ok reply, w) =>
    if w.user.loop = .prompt then
      let w : Scene := (w.runTasks caller allTasks).2
      (.ok (w.laterReply step reply), w)
    else (.ok reply, w)
  | (.error cause, w) => (.error cause, w)

/-- Takes steps: each reply with what happened meanwhile. Fails if a step panics. -/
def takeTurns (w : Scene) : List Step → Except Error (List (Reply × List Entry))
  | [] => .ok []
  | step :: steps => do
    let (result, w) := w.takeTurn step
    let reply ← result
    let (trace, w) := w.takeTrace
    let rest ← takeTurns w steps
    return (reply, trace) :: rest

end Scene

/-- A rehearsal: each reply with what happened meanwhile. -/
def perform (loop : StageLoop) (showsNotices : Bool) (steps : List Step) :
    Except Error (List (Reply × List Entry)) :=
  (Scene.new loop showsNotices).takeTurns steps

end Conduit.Rehearsal
