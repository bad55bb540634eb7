import Conduit.Proofs.Dispatch.Failure

/-!
# Requests That Wait

Off the thread of the event loop a request is not carried out but posted, and the
pipeline may have changed by the time its task runs. Whether its context may ask for
anything is checked when it asks, and where the request goes is looked up when it is
carried out.

What is checked is the mark. A context that has been unlinked is marked, so it is
refused at once and nothing of it is ever seen. What is looked up are the handlers
before the context. As long as it is linked they are found: none that stood before
it is passed over unless it is gone, and the sink comes last.

Between the two there is a gap. A context that is not linked when its request is
carried out is not behind anybody, so its request goes to the sink as if there were
no handlers. That happens if the context was unlinked after it asked, and also if it
asked before it was linked, since a context that has not been linked yet bears no
mark.

## Main definitions

* `Plea`, `World.plead`: What a context asks for.
* `World.handOut`: Handing a request to the first of some handlers, or to the sink.
* `World.grant`: Carrying out what a context asks for.
* `World.Remote`: A pipeline is asked from another thread.
* `World.within`: Work for a pipeline that is held meanwhile.

## Theorems

* `Sound.sendNow_eq`: A request goes to the first handler before a cursor, or to the sink.
* `Sound.runJob_plea`: Where a plea goes.
* `plead_request`, `writeFrom_eq`: Passing a request on and writing are pleading.
* `plead_unmarked`, `plead_refused`, `plead_posted`, `plead_granted`: What comes of it at
  once.
* `runTasks_pipeline`: What comes of it later.
* `plea_fate`: All of this, whatever happens in between.
* `sampleDistant_sound`, `plea_fate_sampleDistant`: A handler that stays.
* `plea_bypassed`: A handler that is passed over.
-/

namespace Conduit

open Roster

/-- What a context asks for, with the promise of its outcome. -/
inductive Plea where
  | request (r : Request)
  | write (msg : Message) (promise : PromiseId)
  deriving Inhabited

namespace Plea

/-- The promise that is settled in the end. -/
def promise : Plea → PromiseId
  | request r => r.promise
  | write _ f => f

/-- The job of carrying it out past a context. -/
def job (c : ContextId) : Plea → Job
  | request r => .send (.after c) r
  | write msg f => .write (.after c) msg f

end Plea

namespace World

variable {σ : Type} [Journal σ] {w : World σ} {p : PipelineId} {c : ContextId}

/-- Asks for something past a context. -/
def plead (w : World σ) (call : Caller σ) (c : ContextId) (a : Plea) : World σ :=
  match w.refusal c with
  | none => w.executeFor call c (a.job c)
  | some cause => (w.complete call a.promise (.error cause)).2

/-- Passing a request on is pleading. -/
theorem plead_request (w : World σ) (call : Caller σ) (c : ContextId) (r : Request) :
    w.plead call c (.request r) = w.requestWith call c r := rfl

/-- Writing is pleading, with a new promise. -/
theorem writeFrom_eq (w : World σ) (call : Caller σ) (c : ContextId) (msg : Message) :
    (w.writeFrom call c msg).2 = w.newPromise.2.plead call c (.write msg w.newPromise.1) := by
  rw [writeFrom, plead]
  dsimp only
  cases w.newPromise.2.refusal c with
  | none => rfl
  | some cause => rfl

/-- Hands a request to the first of some handlers, or to the sink if there is none. -/
def handOut (w : World σ) (call : Caller σ) (p : PipelineId) (before : Roster) (r : Request) :
    World σ :=
  match before with
  | [] => w.sinkRequest call p r
  | x :: _ =>
    match call (.handler x.id (.outbound r)) w with
    | (.ok _, w) => w
    | (.error cause, w) =>
      (w.afterFailure call x.id cause (.outbound r)).reportFailure call p x.id r.kind cause

/-- Where a message waits for the first of some handlers, or for the sink. -/
def outlet (p : PipelineId) : Roster → Place
  | [] => .sink p
  | x :: _ => .outbound x.id

/-- Carries out what a context asks for, given the handlers before it of each kind. -/
def grant (w : World σ) (call : Caller σ) (p : PipelineId) (before : EventKind → Roster) :
    Plea → World σ
  | .request r => w.handOut call p (before r.kind) r
  | .write msg f =>
    (w.updateContainer (outlet p (before .flush)) (·.add msg)).handOut call p (before .flush)
      ⟨.flush, f⟩

/-- Does some work for a pipeline, and holds it until that is done. -/
def within (w : World σ) (p : PipelineId) (work : World σ → World σ) : World σ :=
  (work (w.hold (.pipeline p))).release (.pipeline p)

/-- The world with a task more to do. -/
def posted (w : World σ) (task : Task) : World σ :=
  { w with queue := { w.queue with pending := w.queue.pending ++ [task] } }

/-- The handlers before a context, nearest first. -/
def before (w : World σ) (p : PipelineId) (c : ContextId) (kind : EventKind) : Roster :=
  targets (w.roster p).reverse (.after c) kind

/-- A pipeline is asked from another thread: it is there, and its loop takes tasks. -/
structure Remote (w : World σ) (p : PipelineId) : Prop where
  kept : w.isKept p = true
  outside : w.inLoop (w.loopOf p) = false
  running : w.queue.isShutdown = false

/-! ### Where it goes -/

/-- A request goes to the first handler before a cursor, or to the sink. -/
theorem Sound.sendNow_eq (hw : w.Sound) (call : Caller σ) (p : PipelineId) (cursor : Cursor)
    (r : Request) :
    w.sendNow call p cursor r =
      w.handOut call p (targets (w.roster p).reverse cursor r.kind) r := by
  have hfind := (hw p).findOutbound r.kind_isInbound cursor
  rw [sendNow, hfind]
  cases htargets : targets (w.roster p).reverse cursor r.kind with
  | nil => rfl
  | cons x xs => rfl

/-- What a context asks for goes to the handlers before it. A message waits where the flush
    that follows it goes. -/
theorem Sound.runJob_plea (hw : w.Sound) (call : Caller σ) (p : PipelineId) (c : ContextId)
    (a : Plea) : w.runJob call p (a.job c) = w.grant call p (w.before p c) a := by
  cases a with
  | request r => exact hw.sendNow_eq call p (.after c) r
  | write msg f =>
      have houtlet : w.outboundTarget p (.after c) = outlet p (w.before p c .flush) := by
        rw [outboundTarget, (hw p).findOutbound rfl (.after c), before]
        cases targets (w.roster p).reverse (.after c) .flush with
        | nil => rfl
        | cons x xs => rfl
      have hsame := outline_updateContainer w (w.outboundTarget p (.after c)) (·.add msg)
      have hsend := (hw.of_outline hsame).sendNow_eq call p (.after c) ⟨.flush, f⟩
      rw [roster_of_outline hsame, houtlet] at hsend
      rw [Plea.job, runJob, houtlet]
      exact hsend

/-! ### At once -/

/-- A marked context is refused: the promise fails, and that is all. -/
theorem plead_refused (hmark : (w.context c).removed = true) (call : Caller σ) (a : Plea) :
    w.plead call c a =
      (w.complete call a.promise (.error (.illegalState (.removed (w.context c).name)))).2 := by
  have hrefusal : w.refusal c = some (.illegalState (.removed (w.context c).name)) :=
    if_pos hmark
  rw [plead, hrefusal]

section Unmarked

variable (hmark : (w.context c).removed = false) (hkept : w.isKept (w.context c).pipeline = true)
  (call : Caller σ) (a : Plea)
include hmark hkept

/-- A context without a mark is not refused, as long as its pipeline is there. -/
theorem plead_unmarked : w.plead call c a = w.executeFor call c (a.job c) := by
  have hpipeline : w.hasPipeline c = true := hkept
  have hrefusal : w.refusal c = none := by
    rw [refusal, hmark, if_neg (by decide), if_pos hpipeline]
  rw [plead, hrefusal]

/-- From another thread its plea is posted. -/
theorem plead_posted (h : w.Remote (w.context c).pipeline) :
    w.plead call c a = w.posted (.pipeline (w.context c).pipeline (a.job c)) := by
  have hout : ¬ (w.hold (.pipeline (w.context c).pipeline)).inLoop
      ((w.hold (.pipeline (w.context c).pipeline)).loopOf (w.context c).pipeline) = true :=
    fun hin => absurd (h.outside.symm.trans hin) (by decide)
  have hpost : (w.hold (.pipeline (w.context c).pipeline)).queue.post
      (.pipeline (w.context c).pipeline (a.job c)) =
        .ok (w.posted (.pipeline (w.context c).pipeline (a.job c))).queue :=
    if_neg (Bool.not_eq_true _ ▸ h.running)
  rw [plead_unmarked hmark hkept, executeFor, execute, if_neg hout]
  simp only [hpost]
  exact release_hold (w.posted _) _

/-- On the thread of the event loop it is granted. -/
theorem plead_granted (hw : w.Sound)
    (hin : w.inLoop (w.loopOf (w.context c).pipeline) = true) :
    w.plead call c a =
      w.within (w.context c).pipeline
        (·.grant call (w.context c).pipeline (w.before (w.context c).pipeline c) a) := by
  have hheld : (w.hold (.pipeline (w.context c).pipeline)).Sound :=
    hw.of_outline (outline_hold w _)
  have hjob := hheld.runJob_plea call (w.context c).pipeline c a
  have hin' : (w.hold (.pipeline (w.context c).pipeline)).inLoop
      ((w.hold (.pipeline (w.context c).pipeline)).loopOf (w.context c).pipeline) = true := hin
  rw [plead_unmarked hmark hkept, executeFor, execute, if_pos hin', hjob]
  rfl

end Unmarked

/-! ### Later -/

/-- A turn of the event loop that takes one task, for a pipeline. -/
theorem runTasks_pipeline {job : Job} {rest : TaskQueue Task}
    (hnext : w.queue.take? = some (.pipeline p job, rest)) (call : Caller σ) :
    (w.runTasks call 1).2 =
      { within { w with queue := rest, inQueueThread := true } p (·.runJob call p job) with
        inQueueThread := w.inQueueThread } := by
  rw [runTasks, takeTasks]
  simp only [hnext]
  rfl

/-- What becomes of what a context asks for, whatever arbitrary handlers, other calls and
    turns of the event loop do in between.

    A marked context is refused. Another one has its plea posted, or granted if it asks on the
    thread of the event loop; and what was posted is granted when its turn comes. To be
    granted it goes to the handlers before the context, if the context is linked: of those
    that were there when it asked, all that are left stand among them in that order. If it is
    not linked, there is nobody before it, and the plea goes to the sink. -/
theorem plea_fate (players : Players σ) (depth : Nat) (hw : w.Sound)
    (hc : c < w.contexts.length) (occasions : List (Occasion σ)) (a : Plea) :
    let call := respond players.play depth
    let p := (w.context c).pipeline
    let w₂ := w.undergoAll call occasions
    ((w.context c).removed = true →
      w.plead call c a =
        (w.complete call a.promise
          (.error (.illegalState (.removed (w.context c).name)))).2) ∧
    ((w.context c).removed = false → w.Remote p →
      w.plead call c a = w.posted (.pipeline p (a.job c))) ∧
    ((w₂.context c).removed = false → w₂.isKept p = true → w₂.inLoop (w₂.loopOf p) = true →
      w₂.plead call c a = w₂.within p (·.grant call p (w₂.before p c) a)) ∧
    (∀ rest, w₂.queue.take? = some (.pipeline p (a.job c), rest) →
      (w₂.runTasks call 1).2 =
        { within { w₂ with queue := rest, inQueueThread := true } p
            (·.grant call p (w₂.before p c) a) with
          inQueueThread := w₂.inQueueThread }) ∧
    (w₂.IsLinked c → ∀ kind,
      (w₂.before p c kind).filter (fun x => x.id < w.contexts.length) =
        (w.before p c kind).filter (· ∈ w₂.roster p)) ∧
    (¬ w₂.IsLinked c → ∀ kind, w₂.before p c kind = []) ∧
    ((w₂.context c).removed = true ↔
      (w.context c).removed = true ∨ w.IsLinked c ∧ ¬ w₂.IsLinked c) := by
  intro call p w₂
  have hcall : Heeds Lineage call := respond_lineage players depth
  have hdescends : Descends w.contexts.length w w₂ :=
    lineage_abides.undergoAll hcall occasions w hw
  have hp : (w₂.context c).pipeline = p := (hdescends.known c hc).1
  refine ⟨fun hmark => plead_refused hmark call a,
    fun hmark h => plead_posted hmark h.kept call a h, fun hmark hkept hin => ?_,
    fun rest hnext => ?_, fun h kind => ?_, fun h kind => ?_, hdescends.marked c hc⟩
  · rw [← hp] at hkept hin ⊢
    exact plead_granted hmark hkept call a hdescends.sound hin
  · have hsame : (World.hold { w₂ with queue := rest, inQueueThread := true }
        (.pipeline p)).outline = w₂.outline := rfl
    have hjob := (hdescends.sound.of_outline hsame).runJob_plea call p c a
    rw [runTasks_pipeline hnext call, within, hjob]
    rfl
  · -- A context that is linked now was linked then.
    have hlinked := hdescends.isLinked (Nat.le_refl _) hc h
    rw [isLinked_iff] at hlinked
    rcases mem_ids.mp hlinked with ⟨m, hm, rfl⟩
    exact hdescends.targets_survivors_reverse hw hm h (.inr rfl) kind
  · -- Nobody is before a context that is not in the roster.
    rw [isLinked_iff, hp] at h
    refine targets_absent (fun hmem => h ?_) (.inr rfl) kind
    rwa [ids_reverse, List.mem_reverse] at hmem

/-! ### A guard that is passed by, and one that is not -/

/-- A guard over requests, a handler behind it, and a collector. -/
def sampleWatch : List Edit :=
  [.insert ⟨0, "guard", .ofList [.flush, .close]⟩ .last,
    .insert ⟨1, "a", .ofList [.channelActive]⟩ .last,
    .insert ⟨2, Handler.collectorName, .inbound⟩ .last]

/-- An embedded channel on the task queue. -/
def sampleDistant : World Diary where
  pipelines :=
    [{ chain := (Edit.run Chain.edit {} sampleWatch).1
       attachment := some { channel := 0, sink := .embedded 0, loop := .queued } }]
  contexts :=
    [sampleContext "guard" [.flush, .close], sampleContext "a" [.channelActive],
      { pipeline := 0, name := Handler.collectorName, handler := Handler.collector 0 }]
  transports := [{}]
  promises := [{}]
  held := [.pipeline 0]
  user := {}

theorem sampleDistant_sound : sampleDistant.Sound := by
  refine sound_of fun p hp => ?_
  have hp : p = 0 := Nat.lt_one_iff.mp hp
  subst hp
  exact ⟨_,
    { holds := (Chain.run_agrees sampleWatch {} [] Chain.empty_holds (by decide)).1
      known := by decide
      pipeline := by decide
      name := by decide
      events := by decide
      linked := by decide }⟩

/-- Handlers that keep a record of their calls and pass everything on. -/
def sampleRecorder : Players Diary
  | .handler c callback, _ =>
    recorded c callback (.act (.proceed c callback) fun _ _ => .finish (.ok ()))
  | _, _ => .finish (.ok ())

/-- The handler behind the guard asks and stays, so the guard is called. -/
theorem plea_fate_sampleDistant :
    let call := respond sampleRecorder.play 4
    let w := sampleDistant.undergoAll call [.deed (.requestWith 1 ⟨.close, 0⟩)]
    w.user.calls = [] ∧
    (w.runTasks call 1).2.user.calls = [⟨0, .outbound ⟨.close, 0⟩⟩] := by
  intro call w
  have h := plea_fate sampleRecorder 4 sampleDistant_sound (c := 1) (by decide)
    [.deed (.requestWith 1 ⟨.close, 0⟩)] (.request ⟨.close, 0⟩)
  refine ⟨rfl, ?_⟩
  have hnext : w.queue.take? = some (.pipeline 0 (Plea.job 1 (.request ⟨.close, 0⟩)), {}) := rfl
  exact (congrArg (fun w => w.user.calls) (h.2.2.2.1 _ hnext)).trans rfl

/-- The handler behind the guard asks and is removed, and both its message and its request
    reach the transport, though the guard is there and has not been called for either. -/
theorem plea_bypassed :
    let call := respond sampleRecorder.play 4
    let w := sampleDistant.undergoAll call
      [.deed (.writeFrom 1 (.text "x")), .deed (.requestWith 1 ⟨.close, 0⟩),
        .deed (.move 0 (.remove "a"))]
    let w' := (w.runTasks call 2).2
    ¬ w.IsLinked 1 ∧ names (w.roster 0) = ["guard", Handler.collectorName] ∧
      (w'.promise 0).outcome = some (.ok ()) ∧ (w'.promise 1).outcome = some (.ok ()) ∧
      (w'.transport 0).sunk = [.flush, .close] ∧
      (w'.transport 0).outbound.messages.map Message.kind = [.text] ∧
      w'.user.calls.map (fun x => (x.context, x.callback.name)) =
        [(1, "before_remove"), (1, "after_remove")] := by
  refine ⟨?_, by decide, by decide +kernel, by decide +kernel, by decide +kernel,
    by decide +kernel, by decide +kernel⟩
  rw [isLinked_iff]
  decide

end World

end Conduit
