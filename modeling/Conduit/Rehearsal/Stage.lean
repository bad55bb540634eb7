import Conduit.Rehearsal.Plan
import Conduit.Rehearsal.Reply

/-!
# Stages

The state of a rehearsal: a world, with everything that the scripts keep in the
place that a world has for its user. What the library knows only by a number,
such as a scripted handler, is looked up here.

## Main definitions

* `Stage`: What the scripts keep.
* `Scene`: A world with a stage.
* `Scene.record`: Adds to the trace.
-/

namespace Conduit.Rehearsal

/-- The event loop that channels are made for. -/
inductive StageLoop where
  | inline
  /-- A queue that runs when it is told to. -/
  | manual
  /-- A queue with a thread of its own, which has run dry after every step. -/
  | prompt
  deriving DecidableEq, Repr, Inhabited

/-- The event loop that channels are made for, as the library knows it. -/
def StageLoop.kind : StageLoop → LoopKind
  | inline => .inline
  | manual | prompt => .queued

/-- A listener that follows a script. -/
structure ListenerPlan where
  id : String
  steps : List Step
  panics : Option Error.Payload

/-- What the scripts keep. -/
structure Stage where
  loop : StageLoop := .inline
  /-- Notices are part of the trace. -/
  showsNotices : Bool := false
  /-- The thread of the event loop waits for somebody else. -/
  isBlocked : Bool := false
  /-- The pipeline that steps are about. -/
  current : Option PipelineId := none
  handlers : List HandlerPlan := []
  sinks : List SinkPlan := []
  listeners : List ListenerPlan := []
  tasks : List String := []
  /-- How often each callback of each scripted handler was called. -/
  calls : Dict (Nat × String) Nat := []
  keptContexts : Dict String ContextId := []
  keptHandlers : Dict String ContextId := []
  keptPromises : Dict String PromiseId := []
  keptChannels : Dict String ChannelId := []
  wakers : List String := []
  /-- What happened, newest first. -/
  trace : List Entry := []

instance : Inhabited Stage := ⟨{}⟩

instance : Journal Stage where
  record n stage :=
    if stage.showsNotices then { stage with trace := .noticed n :: stage.trace } else stage

/-- A world with a stage. -/
abbrev Scene := World Stage

namespace Scene

/-- The scene with its stage changed. -/
def onStage (w : Scene) (f : Stage → Stage) : Scene := { w with user := f w.user }

/-- Adds to the trace. -/
def record (w : Scene) (e : Entry) : Scene :=
  w.onStage fun s => { s with trace := e :: s.trace }

/-- Takes the trace so far, oldest entry first. -/
def takeTrace (w : Scene) : List Entry × Scene :=
  (w.user.trace.reverse, w.onStage ({ · with trace := [] }))

/-- Shows something that a move led to. -/
def reveal (w : Scene) (id move : String) (shown : Reply) : Scene :=
  w.record (.moved id move shown)

/-- Keeps a promise under a name, if one is given. -/
def keepPromise (w : Scene) (keep : Option String) (f : PromiseId) : Scene :=
  match keep with
  | some name => w.onStage fun s => { s with keptPromises := s.keptPromises.insert name f }
  | none => w

/-- Keeps a context under a name. -/
def keepContext (w : Scene) (name : String) (c : ContextId) : Scene :=
  w.onStage fun s => { s with keptContexts := s.keptContexts.insert name c }

/-- Keeps the handler of a context under a name. -/
def keepHandler (w : Scene) (name : String) (c : ContextId) : Scene :=
  w.onStage fun s => { s with keptHandlers := s.keptHandlers.insert name c }

/-- Keeps a channel under a name, and goes on holding it. The one that had that name is
    let go. -/
def keepChannel (w : Scene) (name : String) (ch : ChannelId) : Scene :=
  let w : Scene := match w.user.keptChannels.find? name with
    | some old => w.release (.channel old)
    | none => w
  w.onStage fun s => { s with keptChannels := s.keptChannels.insert name ch }

/-- What can be seen of a context. -/
def contextView (w : Scene) (c : ContextId) : ContextView :=
  let x := w.context c
  let held := w.hasPipeline c
  { name := x.name
    events := x.handler.events
    removed := x.removed
    hasPipeline := held
    hasChannel := held && (w.channelOf x.pipeline).isSome
    inLoop := if held then w.inLoop (w.loopOf x.pipeline) else true }

/-- The outcome of a promise, as far as it is known. -/
def outcome (w : Scene) (f : PromiseId) : Reply := .ofOutcome? (w.promise f).outcome

end Scene

end Conduit.Rehearsal
