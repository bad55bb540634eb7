import Conduit.Rehearsal.Stage

/-!
# Scripted Sinks

What a sink does that follows a plan. It ends as a script does: it is done, it
returns an error, or it panics. The library, when it calls a sink, makes no
difference between the last two. A step that calls the sink itself does, because
nobody stands between the two to catch the panic.

## Main definitions

* `Scene.sinkFollows`: What a sink that follows a plan does when it is called.
* `Scene.trySink`: A call of the sink from outside.
-/

namespace Conduit.Rehearsal

namespace Scene

/-- The first way in which a script ends early, or its end. -/
def endEarly (refuse : Option Error) (panics : Option Error.Payload) : Ending :=
  match refuse, panics with
  | some cause, _ => .failed cause
  | none, some payload => .panicked (.ofPanic payload)
  | none, none => .done

/-- Shows what waits for the sink, and drops it. -/
def drainSink (w : Scene) (p : PipelineId) : Scene :=
  let waiting := w.container (.sink p)
  let w : Scene := w.setContainer (.sink p) waiting.clear
  w.record (.drained waiting.bytes.content waiting.messages)

/-- What a sink that follows a plan does with a request. -/
def sinkTakes (call : Caller Stage) (w : Scene) (plan : SinkPlan) (p : PipelineId)
    (r : Request) : Ending × Scene :=
  let script := (plan.requests.lookup r.kind).getD {}
  let w := w.record (.sunk r.action (w.container (.sink p)).view)
  let w := if script.drains then w.drainSink p else w
  match script.hold with
  | some name => (.done, w.keepPromise (some name) r.promise)
  | none =>
    let w : Scene := match script.fail with
      | some cause => (w.complete call r.promise (.error cause)).2
      | none => w
    match endEarly script.refuse script.panics with
    | .done => (.done, (w.complete call r.promise (.ok ())).2)
    | ending => (ending, w)

/-- What a sink that follows a plan does with a failure. -/
def sinkRemedies (call : Caller Stage) (w : Scene) (plan : SinkPlan) (p : PipelineId)
    (cause : Error) : Ending × Scene :=
  let w := w.record (.sinkFailed cause)
  if plan.remedy.swallows then (.done, w)
  else
    match endEarly plan.remedy.refuse plan.remedy.panics with
    | .done => (.done, w.fire call p (.exceptionCaught cause))
    | ending => (ending, w)

/-- What a sink that follows a plan does when it is called. -/
def sinkFollows (call : Caller Stage) (w : Scene) (number : Nat) (p : PipelineId)
    (ask : SinkCall) : Ending × Scene :=
  let plan := (w.user.sinks[number]?).getD {}
  match ask with
  | .sunk r => sinkTakes call w plan p r
  | .exceptionCaught cause => sinkRemedies call w plan p cause

/-- Calls the sink of a pipeline, and catches nothing. Only a sink that follows a plan
    ever panics. -/
def callSink (call : Caller Stage) (w : Scene) (p : PipelineId) (ask : SinkCall) :
    Ending × Scene :=
  match w.sinkOf p with
  | .custom number => sinkFollows call w number p ask
  | sink =>
    let (outcome, w) := call (.sink p sink ask) w
    (match outcome with
      | .ok _ => .done
      | .error cause => .failed cause, w)

/-- Asks the sink of a pipeline to close, and then hands it a failure. The sink may be
    another one by then, and the request is looked at when both are over. -/
def trySink (call : Caller Stage) (w : Scene) (p : PipelineId) (cause : Error)
    (keep : Option String) : Answer × Scene :=
  let (f, w) := w.newPromise
  match callSink call w p (.sunk ⟨.close, f⟩) with
  | (.panicked cause, w) => (.error cause, w)
  | (asked, w) =>
    match callSink call w p (.exceptionCaught cause) with
    | (.panicked cause, w) => (.error cause, w)
    | (told, w) =>
      (.ok (.list [.ofOutcome asked.outcome, w.outcome f, .ofOutcome told.outcome]),
        w.keepPromise keep f)

end Scene

end Conduit.Rehearsal
