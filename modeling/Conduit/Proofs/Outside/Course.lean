import Conduit.Pipeline.Response
import Conduit.Pipeline.Turn
import Conduit.Proofs.World.Assembly

/-!
# Code Outside the Library

Handlers, sinks, listeners and tasks are somebody else's code, and the library
says nothing about them except that they act through its own calls. A theorem
about arbitrary handlers is a theorem about whatever can be written with those
calls, so that has to be a type.

A `Deed` is one such call, and a `Course` is a program of them. It is a tree and
not a list: what is done next may depend on how the last call ended and on the
whole world, which is more than a handler gets to see. `Players` give the course
for every call that the library makes, and `Players.play` has them answer it. The
deeds of a course go through the caller that the library hands out, so what a
callback sets going is nested in it.

Code that was not called by the library acts between the turns of the event loop.
That is a list of `Occasion`s. Since nothing is assumed of the list, it need not be
a tree.

## Main definitions

* `Deed`, `World.enact`: Something that outside code can do.
* `Course`, `Course.play`: A program of deeds.
* `Players`, `Players.play`: Outside code that answers the library.
* `Occasion`, `World.undergo`: Deeds between the turns of the event loop.

## Theorems

* `attempt_world`: Trying a move makes it.
-/

namespace Conduit

/-- Something that outside code can do. -/
inductive Deed (σ : Type) where
  /-- Changes what the library knows nothing of. -/
  | keep (f : σ → σ)
  /-- Fills a container. -/
  | fill (place : Place) (content : Container)
  /-- Reads from a transport, or does something else to it. -/
  | reach (t : TransportId) (f : Transport → Transport)
  | hold (h : Holding)
  | release (h : Holding)
  | promise
  | settle (f : PromiseId) (outcome : Outcome)
  | listen (f : PromiseId) (l : Listener)
  | poll (f : PromiseId) (waker : WakerId)
  | move (p : PipelineId) (m : Move)
  | fire (p : PipelineId) (event : InboundEvent)
  | feed (p : PipelineId) (msg : Message)
  | request (p : PipelineId) (action : Action)
  | write (p : PipelineId) (msg : Message)
  | fireFrom (c : ContextId) (event : InboundEvent)
  | requestWith (c : ContextId) (r : Request)
  | writeFrom (c : ContextId) (msg : Message)
  /-- Does for a context what every handler does by default. -/
  | proceed (c : ContextId) (callback : Callback)
  | newPipeline
  | newChannel (ch : Channel)
  | attach (p : PipelineId) (ch : ChannelId) (sink : Sink)
  | detach (p : PipelineId)
  | openEmbedded (p : PipelineId) (loop : LoopKind)
  | post (loop : LoopKind) (tag : Nat)
  | shutdown

/-- A program of deeds. What comes next depends on how the last one ended, and on what the
    world has come to. -/
inductive Course (σ : Type) where
  | finish (outcome : Outcome)
  | act (deed : Deed σ) (next : Outcome → World σ → Course σ)

/-- Outside code that answers the library. -/
abbrev Players (σ : Type) := Upcall → World σ → Course σ

/-- What happens between the turns of the event loop, and such turns. -/
inductive Occasion (σ : Type) where
  | deed (d : Deed σ)
  | turn (limit : Nat)

namespace World

variable {σ : Type} [Journal σ]

/-- Tries to rearrange a pipeline, and says whether that went well. -/
def attempt (w : World σ) (call : Caller σ) (p : PipelineId) : Move → Outcome × World σ
  | .add position name h => w.add call p position name h
  | .remove name => (w.remove call p name).map (·.map fun _ => ()) id
  | .removeFirst => (w.removeFirst call p).map (·.map fun _ => ()) id
  | .removeLast => (w.removeLast call p).map (·.map fun _ => ()) id
  | .removeHandler c => (w.removeHandler call p c).map (·.map fun _ => ()) id
  | .replace oldName newName h =>
    (w.replace call p oldName newName h).map (·.map fun _ => ()) id

/-- Trying a move makes it. -/
theorem attempt_world (w : World σ) (call : Caller σ) (p : PipelineId) (m : Move) :
    (w.attempt call p m).2 = w.move call p m := by
  cases m <;> rfl

/-- Does a deed, and says how it ended. -/
def enact (w : World σ) (call : Caller σ) : Deed σ → Outcome × World σ
  | .keep f => (.ok (), w.setUser (f w.user))
  | .fill place content => (.ok (), w.setContainer place content)
  | .reach t f => (.ok (), w.updateTransport t f)
  | .hold h => (.ok (), w.hold h)
  | .release h => (.ok (), w.release h)
  | .promise => (.ok (), w.newPromise.2)
  | .settle f outcome => (.ok (), (w.complete call f outcome).2)
  | .listen f l => (.ok (), w.listen call f l)
  | .poll f waker => (.ok (), w.setPromise f ((w.promise f).poll waker).2)
  | .move p m => w.attempt call p m
  | .fire p event => (.ok (), w.fire call p event)
  | .feed p msg => (.ok (), w.feed call p msg)
  | .request p action => (.ok (), (w.request call p action).2)
  | .write p msg => (.ok (), (w.write call p msg).2)
  | .fireFrom c event => (.ok (), w.fireFrom call c event)
  | .requestWith c r => (.ok (), w.requestWith call c r)
  | .writeFrom c msg => (.ok (), (w.writeFrom call c msg).2)
  | .proceed c callback => (.ok (), w.byDefault call c callback)
  | .newPipeline => (.ok (), { w with pipelines := w.pipelines ++ [{}] })
  | .newChannel ch => (.ok (), (w.newChannel ch).2)
  | .attach p ch sink => w.attach p ch sink
  | .detach p => (.ok (), w.detach p)
  | .openEmbedded p loop => (w.openEmbedded call p loop).map (·.map fun _ => ()) id
  | .post loop tag => w.post call loop (.custom tag)
  | .shutdown => (.ok (), { w with queue := w.queue.shutdown })

/-- What happens on an occasion. -/
def undergo (w : World σ) (call : Caller σ) : Occasion σ → World σ
  | .deed d => (w.enact call d).2
  | .turn limit => (w.runTasks call limit).2

/-- What happens on one occasion after the other. -/
def undergoAll (w : World σ) (call : Caller σ) (occasions : List (Occasion σ)) : World σ :=
  occasions.foldl (fun w o => w.undergo call o) w

end World

/-- Does one deed after the other. -/
def Course.play {σ : Type} [Journal σ] (call : Caller σ) : Course σ → World σ → Outcome × World σ
  | .finish outcome, w => (outcome, w)
  | .act d next, w =>
    let (outcome, w) := w.enact call d
    (next outcome w).play call w

/-- The answers of players, as the user's part of a caller. -/
def Players.play {σ : Type} [Journal σ] (players : Players σ) (call : Caller σ) : Caller σ :=
  fun upcall w => (players upcall w).play call w

end Conduit
