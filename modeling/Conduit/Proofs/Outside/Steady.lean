import Conduit.Proofs.Activation.Pulse
import Conduit.Proofs.Outside.Course

/-!
# What a Dispatch Preserves

The library changes a world in two ways. It changes data, promises, activations
and whatever else is not the structure of a pipeline by itself; and it calls code
outside. So a property that does not look at what the library changes by itself,
and that the code outside preserves, is preserved by everything that the library
does. It takes one lemma for each function to say so, and they are all here, so
that nothing about arbitrary handlers has to go through dispatch again.

The structure of a pipeline is its chain, together with the names, the event sets
and the marks of its contexts. `outline` is a world reduced to that. What changes
the structure are the calls that rearrange a pipeline, and those are left to
whoever brings the property.

Some properties look at the activations as well. `figure` is the outline with them,
and with the annals, which tell how they came about. All that changes either in a
dispatch are the pulses, so what such a property brings is what becomes of it over a
pulse. A property of the outline alone has that for nothing.

## Main definitions

* `World.outline`: The structure of all pipelines.
* `World.figure`: The structure, and how far all channels have come to life.
* `World.Stolid`: A property of the figure that calls preserve.
* `World.Robust`: One that pulses preserve too, and so all that the library does.
* `World.Steady`: A property of the outline that calls preserve.

## Theorems

* `outline_of_figure`, `life_of_figure`, `marks_of_figure`: What the figure tells.
* `outline_updateContext`, `outline_updatePipeline`, `outline_updateActivation`,
  `outline_updateContainer`, `outline_hold`: What leaves the outline alone.
* `figure_updateContext`, `figure_updatePipeline`, `figure_setContainer`,
  `figure_updateContainer`, `figure_moveAll`, `figure_forwardInbound`,
  `figure_forwardOutbound`, `figure_notice`, `figure_hold`, `figure_release`,
  `figure_newPromise`, `figure_updateTransport`, `figure_deliver`: What leaves the figure
  alone.
* `Stolid.after`, `Stolid.tell`, `Stolid.tellAll`, `Stolid.complete`, `Stolid.listen`: Calls
  that return, and promises.
* `Stolid.unheard`, `Stolid.fellOff`, `Stolid.dispatch`, `Stolid.raise`,
  `Stolid.reportFailure`, `Stolid.fireNow`: Delivering an event.
* `Stolid.sinkRequest`, `Stolid.sendNow`: Delivering a request.
* `Stolid.start`, `Stolid.activeNow`, `Stolid.openNow`, `Stolid.inactiveNow`,
  `Stolid.updatedNow`, `Stolid.pulse`: Coming to life, if that does not show.
* `Robust.runJob`, `Robust.execute`, `Robust.fire`, `Robust.feed`, `Robust.request`,
  `Robust.write`: Doing work, or posting it.
* `Robust.executeFor`, `Robust.fireFrom`, `Robust.requestWith`, `Robust.writeFrom`,
  `Robust.byDefault`: Passing an event on.
* `Robust.runTask`, `Robust.takeTasks`, `Robust.runTasks`, `Robust.post`: A turn of the event
  loop.
* `Steady.stolid`, `Steady.after`, `Steady.robust`, `Steady.reportFailure`: All of it for a
  property of the outline.
-/

namespace Conduit

/-- A context, as far as the structure of its pipeline goes. -/
def Context.outline (x : Context) : Context where
  pipeline := x.pipeline
  name := x.name
  handler := { typeName := "", events := x.handler.events, role := .passive }
  removed := x.removed

namespace World

variable {σ : Type} {w w' : World σ} {call : Caller σ} {I : World σ → Prop}

/-- The structure of all pipelines. -/
def outline (w : World σ) : (PipelineId → Chain) × List Context :=
  (w.chain, w.contexts.map Context.outline)

/-- The structure of all pipelines, how far their channels have come to life, and what is on
    record of that. -/
def figure (w : World σ) : ((PipelineId → Chain) × List Context) ×
    (PipelineId → Option Activation) × List (PipelineId × Mark) :=
  (w.outline, w.life, w.annals)

theorem outline_of_figure (h : w'.figure = w.figure) : w'.outline = w.outline :=
  congrArg Prod.fst h

theorem life_of_figure (h : w'.figure = w.figure) (p : PipelineId) : w'.life p = w.life p :=
  congrFun (congrArg (·.2.1) h) p

theorem marks_of_figure (h : w'.figure = w.figure) (p : PipelineId) : w'.marks p = w.marks p := by
  have hannals : w'.annals = w.annals := congrArg (·.2.2) h
  rw [marks, hannals, marks]

/-! ### What leaves the structure alone -/

theorem outline_updateContext {f : Context → Context} (hf : ∀ x, (f x).outline = x.outline)
    (w : World σ) (c : ContextId) : (w.updateContext c f).outline = w.outline := by
  rw [outline, updateContext, map_modify_of_same hf]
  rfl

theorem outline_updatePipeline {f : Pipeline → Pipeline} (hf : ∀ x, (f x).chain = x.chain)
    (w : World σ) (p : PipelineId) : (w.updatePipeline p f).outline = w.outline := by
  have hchain : (w.updatePipeline p f).chain = w.chain :=
    funext fun q => pipeline_updatePipeline (g := Pipeline.chain) hf w p q
  rw [outline, hchain]
  rfl

theorem outline_updateActivation (w : World σ) (p : PipelineId) (f : Activation → Activation) :
    (w.updateActivation p f).outline = w.outline :=
  outline_updatePipeline (by intro x; rfl) w p

theorem outline_hold (w : World σ) (h : Holding) : (w.hold h).outline = w.outline := rfl

/-! ### What leaves the figure alone -/

theorem figure_updateContext {f : Context → Context} (hf : ∀ x, (f x).outline = x.outline)
    (w : World σ) (c : ContextId) : (w.updateContext c f).figure = w.figure :=
  congrArg (·, w.life, w.annals) (outline_updateContext hf w c)

theorem figure_updatePipeline {f : Pipeline → Pipeline}
    (hf : ∀ x, (f x).chain = x.chain ∧ (f x).activation = x.activation) (w : World σ)
    (p : PipelineId) : (w.updatePipeline p f).figure = w.figure :=
  Prod.ext (outline_updatePipeline (fun x => (hf x).1) w p)
    (congrArg (·, w.annals) (funext (life_updatePipeline (fun x => (hf x).2) w p)))

@[simp] theorem figure_setContainer (w : World σ) (place : Place) (x : Container) :
    (w.setContainer place x).figure = w.figure := by
  cases place with
  | inbound c => exact figure_updateContext (by intro y; rfl) w c
  | outbound c => exact figure_updateContext (by intro y; rfl) w c
  | tail p => exact figure_updatePipeline (by intro y; exact ⟨rfl, rfl⟩) w p
  | sink p => exact figure_updatePipeline (by intro y; exact ⟨rfl, rfl⟩) w p
  | nowhere => rfl

@[simp] theorem figure_updateContainer (w : World σ) (place : Place)
    (f : Container → Container) : (w.updateContainer place f).figure = w.figure :=
  figure_setContainer w place _

theorem outline_updateContainer (w : World σ) (place : Place) (f : Container → Container) :
    (w.updateContainer place f).outline = w.outline :=
  outline_of_figure (figure_updateContainer w place f)

@[simp] theorem figure_moveAll (w : World σ) (source target : Place) :
    (w.moveAll source target).figure = w.figure := by
  rw [moveAll, figure_setContainer, figure_setContainer]

@[simp] theorem figure_forwardInbound (w : World σ) (c : ContextId) :
    (w.forwardInbound c).figure = w.figure := by
  rw [forwardInbound]
  by_cases hempty : (w.container (.inbound c)).isEmpty = true
  · rw [if_pos hempty]
  · rw [if_neg hempty, figure_moveAll]

@[simp] theorem figure_forwardOutbound (w : World σ) (c : ContextId) :
    (w.forwardOutbound c).figure = w.figure := by
  rw [forwardOutbound]
  by_cases hempty : (w.container (.outbound c)).isEmpty = true
  · rw [if_pos hempty]
  · rw [if_neg hempty, figure_moveAll]

@[simp] theorem figure_notice [Journal σ] (w : World σ) (n : Notice) :
    (w.notice n).figure = w.figure := rfl

@[simp] theorem figure_hold (w : World σ) (h : Holding) : (w.hold h).figure = w.figure := rfl

@[simp] theorem figure_release (w : World σ) (h : Holding) :
    (w.release h).figure = w.figure := rfl

@[simp] theorem figure_newPromise (w : World σ) : w.newPromise.2.figure = w.figure := rfl

@[simp] theorem figure_updateTransport (w : World σ) (t : TransportId)
    (f : Transport → Transport) : (w.updateTransport t f).figure = w.figure := rfl

@[simp] theorem figure_deliver (w : World σ) (source : Place) (t : TransportId) (side : Side) :
    (w.deliver source t side).figure = w.figure := by
  rw [deliver, figure_updateTransport, figure_setContainer]

/-! ### Properties of the figure -/

/-- A property that does not look past the figure of a world, and that whoever is called
    preserves. -/
structure Stolid (I : World σ → Prop) (call : Caller σ) : Prop where
  same : ∀ {w w'}, I w → w'.figure = w.figure → I w'
  call : ∀ upcall w, I w → I (call upcall w).2

/-- One that coming to life preserves as well. -/
structure Robust [Journal σ] (I : World σ → Prop) (answers : Caller σ) : Prop extends
    Stolid I answers where
  pulse : ∀ w p (e : Pulse), I w → I (w.runJob answers p e.job)

/-- A property that dispatch cannot break. It does not look past the outline of a world, and
    whoever is called preserves it. -/
structure Steady (I : World σ → Prop) (call : Caller σ) : Prop where
  same : ∀ {w w'}, I w → w'.outline = w.outline → I w'
  call : ∀ upcall w, I w → I (call upcall w).2

namespace Stolid

/-- It holds when a call has returned. -/
theorem after (h : Stolid I call) {upcall : Upcall} {outcome : Outcome}
    (hcall : call upcall w = (outcome, w')) (hw : I w) : I w' := by
  have h' := h.call upcall w hw
  rwa [hcall] at h'

variable [Journal σ] (h : Stolid I call) (hw : I w)
include h hw

/-! ### Promises -/

theorem tell (l : Listener) (f : PromiseId) : I (w.tell call l f) := by
  rw [World.tell]
  cases hcall : call (.listener l f) w with
  | mk outcome w₁ =>
      have hw₁ := h.after hcall hw
      cases outcome with
      | ok _ => exact hw₁
      | error cause => exact h.same hw₁ rfl

theorem tellAll (f : PromiseId) :
    ∀ listeners : List Listener, I (listeners.foldl (fun w l => w.tell call l f) w) := by
  intro listeners
  induction listeners generalizing w with
  | nil => exact hw
  | cons l listeners ih => exact ih (h.tell hw l f)

theorem complete (f : PromiseId) (outcome : Outcome) : I (w.complete call f outcome).2 := by
  rw [World.complete]
  cases (w.promise f).keep outcome with
  | none => exact hw
  | some kept =>
      obtain ⟨wakers, listeners, settled⟩ := kept
      have hkept : I { w.setPromise f settled with woken := wakers.reverse ++ w.woken } :=
        h.same hw rfl
      exact h.tellAll hkept f listeners

theorem listen (f : PromiseId) (l : Listener) : I (w.listen call f l) := by
  rw [World.listen]
  cases (w.promise f).listen l with
  | none => exact h.tell hw l f
  | some settled => exact h.same hw rfl

/-! ### Inbound -/

theorem unheard (p : PipelineId) (kind : EventKind) : I (w.unheard p kind) := by
  rw [World.unheard]
  by_cases hkind : kind = .messageUpdated
  · rw [if_pos hkind]
    exact h.same hw (by simp)
  · rw [if_neg hkind]
    exact h.same hw rfl

theorem fellOff (p : PipelineId) (event : InboundEvent) : I (w.fellOff p event) := by
  cases event with
  | exceptionCaught cause => exact h.same hw rfl
  | messageUpdated =>
      rw [World.fellOff]
      by_cases hempty : (w.container (.tail p)).isEmpty = true
      · rw [if_pos hempty]
        exact hw
      · rw [if_neg hempty]
        exact h.same hw (by simp)
  | _ => exact hw

theorem dispatch {failed : ContextId → Error → World σ → World σ}
    (hfailed : ∀ c cause w, I w → I (failed c cause w)) (p : PipelineId) (cursor : Cursor)
    (event : InboundEvent) : I (w.dispatch call p cursor event failed) := by
  rw [World.dispatch]
  by_cases hstart : cursor = .start ∧ (w.chain p).hasInbound = false
  · rw [if_pos hstart]
    exact h.unheard hw p event.kind
  · rw [if_neg hstart]
    cases (w.chain p).findInbound cursor event.kind with
    | none => exact h.fellOff hw p event
    | some c =>
        dsimp only
        cases hcall : call (.handler c (.inbound event)) w with
        | mk outcome w₁ =>
            have hw₁ := h.after hcall hw
            cases outcome with
            | ok _ => exact hw₁
            | error cause => exact hfailed c cause w₁ hw₁

theorem raise (p : PipelineId) (cursor : Cursor) (cause : Error) :
    I (w.raise call p cursor cause) := by
  refine h.dispatch hw (fun c cause w hw => ?_) p cursor (.exceptionCaught cause)
  exact h.same hw rfl

theorem reportFailure (p : PipelineId) (c : ContextId) (kind : EventKind) (cause : Error) :
    I (w.reportFailure call p c kind cause) :=
  h.raise hw p _ _

theorem fireNow (p : PipelineId) (cursor : Cursor) (event : InboundEvent) :
    I (w.fireNow call p cursor event) := by
  rw [fireNow_eq]
  refine h.dispatch hw (fun c cause w hw => ?_) p cursor event
  cases event with
  | exceptionCaught _ => exact h.same hw rfl
  | messageUpdated => exact h.reportFailure (h.same hw (by simp)) p c _ cause
  | _ => exact h.reportFailure hw p c _ cause

/-! ### Outbound -/

theorem sinkRequest (p : PipelineId) (r : Request) : I (w.sinkRequest call p r) := by
  rw [World.sinkRequest]
  dsimp only
  cases hcall : call (.sink p (w.sinkOf p) (.sunk r)) w with
  | mk outcome w₁ =>
      have hw₁ := h.after hcall hw
      cases outcome with
      | ok _ => exact hw₁
      | error cause =>
          -- The request fails first, which may call listeners.
          have hw₂ := h.complete hw₁ r.promise (.error cause)
          dsimp only
          -- The sink is asked for a remedy, and may fail over that as well.
          cases hremedy : call (.sink p (w.sinkOf p) (.exceptionCaught cause))
              (w₁.complete call r.promise (.error cause)).2 with
          | mk outcome w₃ =>
              have hw₃ := h.after hremedy hw₂
              cases outcome with
              | ok _ => exact hw₃
              | error second =>
                  have hw₄ : I (w₃.notice (.sinkFailed r.kind second)) := h.same hw₃ rfl
                  exact h.raise hw₄ p .start second

theorem sendNow (p : PipelineId) (cursor : Cursor) (r : Request) :
    I (w.sendNow call p cursor r) := by
  rw [World.sendNow]
  cases (w.chain p).findOutbound cursor r.kind with
  | none => exact h.sinkRequest hw p r
  | some c =>
      dsimp only
      cases hcall : call (.handler c (.outbound r)) w with
      | mk outcome w₁ =>
          have hw₁ := h.after hcall hw
          cases outcome with
          | ok _ => exact hw₁
          | error cause =>
              -- What a flush that fails has read is dropped, and that does not show.
              refine h.reportFailure (h.complete ?_ r.promise (.error cause)) p c r.kind cause
              by_cases hflush : r.kind = .flush
              · rw [if_pos hflush]
                exact h.same hw₁ (by simp)
              · rw [if_neg hflush]
                exact hw₁

/-! ### Coming to life -/

section Life

variable {p : PipelineId} (hset : ∀ (w : World σ) f, I w → I (w.updateActivation p f))
  (hmark : ∀ (w : World σ) m, I w → I (w.mark p m))
include hset hmark

omit hset in
theorem start (e : Pulse) : I (w.start call p e) :=
  hmark _ _ (h.fireNow (hmark _ _ hw) p _ _)

theorem activeNow : I (w.activeNow call p) := by
  rw [World.activeNow]
  by_cases hopened : (w.pipeline p).activation.opened = true
  · rw [if_pos hopened]
    -- What has waited is replayed after the handlers have been called.
    have hstarted := h.start (hset _ ({ · with active := true }) hw) hmark .activated
    have hreplay := hset _ ({ · with pendingUpdate := false }) hstarted
    dsimp only
    split
    · exact h.start hreplay hmark .updated
    · exact hreplay
  · rw [if_neg hopened]
    exact hset _ _ (h.same hw rfl)

theorem openNow : I (w.openNow call p) := by
  have hstarted := h.start (hset _ ({ · with opened := true, pendingActive := false }) hw) hmark
    .opened
  rw [World.openNow]
  cases (w.pipeline p).activation.pendingActive with
  | true => exact h.activeNow hstarted hset hmark
  | false => exact hstarted

theorem inactiveNow : I (w.inactiveNow call p) := h.start (hset _ _ hw) hmark .deactivated

theorem updatedNow : I (w.updatedNow call p) := by
  rw [World.updatedNow]
  by_cases hactive : (w.pipeline p).activation.active = true
  · rw [if_pos hactive]
    exact h.start hw hmark .updated
  · rw [if_neg hactive]
    exact hset _ _ hw

/-- It is preserved by a pulse if neither the flags of the pipeline nor what is on record of
    its channel show in it. -/
theorem pulse (e : Pulse) : I (w.runJob call p e.job) := by
  have hfired := hmark w (.fired e) hw
  cases e with
  | opened => exact h.openNow hfired hset hmark
  | activated => exact h.activeNow hfired hset hmark
  | deactivated => exact h.inactiveNow hfired hset hmark
  | updated => exact h.updatedNow hfired hset hmark

end Life

end Stolid

namespace Robust

variable [Journal σ] (h : Robust I call) (hw : I w)
include h hw

/-! ### Jobs -/

theorem runJob (p : PipelineId) (job : Job) : I (w.runJob call p job) := by
  cases job with
  | «open» => exact h.pulse w p .opened hw
  | active => exact h.pulse w p .activated hw
  | inactive => exact h.pulse w p .deactivated hw
  | updated => exact h.pulse w p .updated hw
  | fire cursor event => exact h.fireNow hw p cursor event
  | feed msg => exact h.same hw (by simp [World.runJob])
  | send cursor r => exact h.sendNow hw p cursor r
  | write cursor msg promise => exact h.sendNow (h.same hw (by simp)) p cursor _

theorem execute (p : PipelineId) (job : Job) : I (w.execute call p job) := by
  rw [World.execute]
  by_cases hin : w.inLoop (w.loopOf p) = true
  · rw [if_pos hin]
    exact h.runJob hw p job
  · rw [if_neg hin]
    cases w.queue.post (.pipeline p job) with
    | ok queue => exact h.same hw rfl
    | error cause =>
        -- The loop has refused it.
        dsimp only
        cases job.promise? with
        | none => exact h.same hw rfl
        | some f => exact h.complete hw f _

theorem fire (p : PipelineId) (event : InboundEvent) : I (w.fire call p event) :=
  h.execute hw p _

theorem feed (p : PipelineId) (msg : Message) : I (w.feed call p msg) :=
  h.execute hw p _

theorem request (p : PipelineId) (action : Action) : I (w.request call p action).2 := by
  have hw₁ : I w.newPromise.2 := h.same hw (figure_newPromise w)
  exact h.execute hw₁ p _

theorem write (p : PipelineId) (msg : Message) : I (w.write call p msg).2 := by
  have hw₁ : I w.newPromise.2 := h.same hw (figure_newPromise w)
  exact h.execute hw₁ p _

/-! ### Contexts -/

theorem executeFor (c : ContextId) (job : Job) : I (w.executeFor call c job) :=
  h.same (h.execute (h.same hw (figure_hold w _)) _ job) (figure_release _ _)

theorem fireFrom (c : ContextId) (event : InboundEvent) : I (w.fireFrom call c event) := by
  rw [World.fireFrom]
  by_cases hremoved : (w.context c).removed = true
  · rw [if_pos hremoved]
    exact h.same hw rfl
  · rw [if_neg hremoved]
    by_cases hpipeline : w.hasPipeline c = true
    · rw [if_pos hpipeline]
      exact h.executeFor hw c _
    · rw [if_neg hpipeline]
      exact h.same hw rfl

theorem requestWith (c : ContextId) (r : Request) : I (w.requestWith call c r) := by
  rw [World.requestWith]
  cases w.refusal c with
  | none => exact h.executeFor hw c _
  | some cause => exact h.complete hw r.promise _

theorem writeFrom (c : ContextId) (msg : Message) : I (w.writeFrom call c msg).2 := by
  have hw₁ : I w.newPromise.2 := h.same hw (figure_newPromise w)
  rw [World.writeFrom]
  dsimp only
  cases w.newPromise.2.refusal c with
  | none => exact h.executeFor hw₁ c _
  | some cause => exact h.complete hw₁ _ _

theorem byDefault (c : ContextId) (callback : Callback) : I (w.byDefault call c callback) := by
  cases callback with
  | hook hook => exact hw
  | inbound event =>
      cases event with
      | messageUpdated => exact h.fireFrom (h.same hw (by simp)) c _
      | _ => exact h.fireFrom hw c _
  | outbound r =>
      obtain ⟨action, f⟩ := r
      cases action with
      | flush => exact h.requestWith (h.same hw (by simp)) c _
      | _ => exact h.requestWith hw c _

/-! ### Turns of the event loop -/

theorem runTask (task : Task) : I (w.runTask call task) := by
  cases task with
  | pipeline p job =>
      exact h.same (h.runJob (h.same hw (figure_hold w (.pipeline p))) p job) (figure_release _ _)
  | custom tag => exact h.call (.task tag) w hw

theorem takeTasks (limit : Nat) : I (w.takeTasks call limit).2 := by
  induction limit generalizing w with
  | zero => exact hw
  | succ limit ih =>
      rw [World.takeTasks]
      cases w.queue.take? with
      | none => exact hw
      | some next =>
          obtain ⟨task, queue⟩ := next
          have hw₁ : I { w with queue } := h.same hw rfl
          exact ih (h.runTask hw₁ task)

theorem runTasks (limit : Nat) : I (w.runTasks call limit).2 := by
  have hw₁ : I { w with inQueueThread := true } := h.same hw rfl
  exact h.same (h.takeTasks hw₁ limit) rfl

theorem post (loop : LoopKind) (task : Task) : I (w.post call loop task).2 := by
  cases loop with
  | inline => exact h.runTask hw task
  | queued =>
      rw [World.post]
      cases w.queue.post task with
      | ok queue => exact h.same hw rfl
      | error cause => exact hw

end Robust

namespace Steady

variable (h : Steady I call)
include h

theorem stolid : Stolid I call where
  same := fun hw hsame => h.same hw (outline_of_figure hsame)
  call := h.call

/-- It holds when a call has returned. -/
theorem after {upcall : Upcall} {outcome : Outcome} (hcall : call upcall w = (outcome, w'))
    (hw : I w) : I w' :=
  h.stolid.after hcall hw

variable [Journal σ]

/-- Coming to life does not show in the outline. -/
theorem robust : Robust I call where
  same := h.stolid.same
  call := h.call
  pulse := fun _ p e hw =>
    h.stolid.pulse hw (fun w f hw => h.same hw (outline_updateActivation w p f))
      (fun _ _ hw => h.same hw rfl) e

theorem reportFailure (hw : I w) (p : PipelineId) (c : ContextId) (kind : EventKind)
    (cause : Error) : I (w.reportFailure call p c kind cause) :=
  h.stolid.reportFailure hw p c kind cause

end Steady

end World

end Conduit
