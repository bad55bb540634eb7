import Conduit.Pipeline.Response
import Conduit.Proofs.Chain.Search
import Conduit.Proofs.World.Bare

/-!
# Hosting

When a pipeline of a world is the one that a roster describes. The chain of the
pipeline holds the roster, and the contexts of the world bear the chain out: the
context behind every number belongs to this pipeline, has the name and asks for
the events that the chain has on record, and has not been marked as unlinked.

`Ready` is what a dispatch needs of a world beyond that. The calling thread is
the one on which the pipeline works, so nothing is posted, and somebody holds the
pipeline, as whoever calls into it does.

## Main definitions

* `World.Hosts`: A pipeline is the one that a roster describes.
* `World.Ready`: A pipeline can be worked on at once.
* `World.onFailure`: What is done when a handler fails over an event.

## Theorems

* `InboundEvent.kind_isInbound`, `Request.kind_isInbound`: Which side a kind belongs to.
* `Hosts.congr`, `Ready.congr`: Both are about the bare world.
* `context_updateContext`, `context_updateContext_self`, `Hosts.updateContext`: Nor does it
  matter what a handler keeps.
* `pipeline_updatePipeline`, `chain_updateActivation`, `loopOf_updateActivation`: A pipeline
  that is updated.
* `isKept_hold`, `Ready.execute`: Work is done at once.
* `Hosts.setContainer`, `Ready.setContainer`: Nor does it matter what waits at a place.
* `complete_new`, `outcome_settled`, `promise_congr`, `promise_newPromise`,
  `complete_newPromise`: A new promise is kept, and there is nobody to tell.
* `transport_updateTransport`, `length_updateTransport`: A transport that is updated.
* `Hosts.findInbound`, `Hosts.findOutbound`: Where an event goes.
* `Hosts.handles_collector`: What collectors ask for.
* `Hosts.no_targets`: An event that comes in where nothing is inbound.
* `Hosts.hasPipeline_eq`: The pipeline of a member is there.
* `Hosts.inboundTarget_some`, `Hosts.outboundTarget_some`, `Hosts.outboundTarget_none`,
  `Hosts.nextInbound_some`, `Hosts.nextOutbound_none`: Where data goes.
* `fireNow_eq`, `Hosts.dispatch_some`: An event is brought to its first target.
* `Hosts.sendNow_some`, `Hosts.sendNow_none`: So is a request, if it has one.
* `Hosts.executeFor_eq`, `Hosts.fireFrom_eq`, `Hosts.requestWith_eq`: A member passes an event
  on.
* `respond_user`, `respond_collector`: Who answers for a context.
* `Hosts.fireNow_collector`, `Hosts.fireFrom_collector`: Collectors keep what comes.
-/

namespace Conduit

open Roster

theorem InboundEvent.kind_isInbound (event : InboundEvent) : event.kind.isInbound = true := by
  cases event <;> rfl

theorem Request.kind_isInbound (r : Request) : r.kind.isInbound = false := by
  obtain ⟨action, f⟩ := r
  cases action <;> rfl

namespace World

variable {σ : Type} {w w' : World σ} {p : PipelineId} {l : Roster}

/-- A pipeline is the one that a roster describes. -/
structure Hosts (w : World σ) (p : PipelineId) (l : Roster) : Prop where
  holds : (w.chain p).Holds l
  known : ∀ m ∈ l, m.id < w.contexts.length
  pipeline : ∀ m ∈ l, (w.context m.id).pipeline = p
  name : ∀ m ∈ l, (w.context m.id).name = m.name
  events : ∀ m ∈ l, (w.context m.id).handler.events = m.events
  linked : ∀ m ∈ l, (w.context m.id).removed = false

/-- A pipeline can be worked on at once, and stays for as long as that takes. -/
structure Ready (w : World σ) (p : PipelineId) : Prop where
  inLoop : w.inLoop (w.loopOf p) = true
  kept : w.isKept p = true

/-- Hosting does not depend on data, nor on what else the world is made of. -/
theorem Hosts.congr (h : w.Hosts p l) (hchain : w'.chain p = w.chain p)
    (hctx : w'.contexts.map Context.bare = w.contexts.map Context.bare) : w'.Hosts p l where
  holds := hchain ▸ h.holds
  known := by
    have hlen := congrArg List.length hctx
    rw [List.length_map, List.length_map] at hlen
    rw [hlen]
    exact h.known
  pipeline := fun m hm =>
    (context_congr (f := Context.pipeline) (fun _ => rfl) hctx m.id).trans (h.pipeline m hm)
  name := fun m hm =>
    (context_congr (f := Context.name) (fun _ => rfl) hctx m.id).trans (h.name m hm)
  events := fun m hm =>
    (context_congr (f := fun x => x.handler.events) (fun _ => rfl) hctx m.id).trans
      (h.events m hm)
  linked := fun m hm =>
    (context_congr (f := Context.removed) (fun _ => rfl) hctx m.id).trans (h.linked m hm)

/-- What does not show in an updated context does not show in the world. -/
theorem context_updateContext {β : Type} {f : Context → Context} {g : Context → β}
    (hg : ∀ x, g (f x) = g x) (w : World σ) (c d : ContextId) :
    g ((w.updateContext c f).context d) = g (w.context d) := by
  change g (((w.contexts.modify c f)[d]?).getD default) = _
  rw [List.getElem?_modify, context]
  cases w.contexts[d]? with
  | none => rfl
  | some x =>
      by_cases hcd : c = d
      · simp only [hcd, if_true]
        exact hg x
      · simp only [hcd, if_false]
        rfl

/-- A context that is updated. -/
theorem context_updateContext_self {c : ContextId} (hc : c < w.contexts.length)
    (f : Context → Context) : (w.updateContext c f).context c = f (w.context c) := by
  rw [context, updateContext, List.getElem?_modify_eq, context, List.getElem?_eq_getElem hc]
  rfl

/-- Hosting does not depend on what the handlers keep. -/
theorem Hosts.updateContext (h : w.Hosts p l) {f : Context → Context}
    (hf : ∀ x, (f x).pipeline = x.pipeline ∧ (f x).name = x.name ∧
      (f x).handler.events = x.handler.events ∧ (f x).removed = x.removed) (c : ContextId) :
    (w.updateContext c f).Hosts p l where
  holds := h.holds
  known := by
    have hlen : (w.updateContext c f).contexts.length = w.contexts.length :=
      List.length_modify _ _ _
    rw [hlen]
    exact h.known
  pipeline := fun m hm =>
    (context_updateContext (g := Context.pipeline) (fun x => (hf x).1) w c m.id).trans
      (h.pipeline m hm)
  name := fun m hm =>
    (context_updateContext (g := Context.name) (fun x => (hf x).2.1) w c m.id).trans (h.name m hm)
  events := fun m hm =>
    (context_updateContext (g := fun x => x.handler.events) (fun x => (hf x).2.2.1) w c m.id).trans
      (h.events m hm)
  linked := fun m hm =>
    (context_updateContext (g := Context.removed) (fun x => (hf x).2.2.2) w c m.id).trans
      (h.linked m hm)

/-- What does not show in an updated pipeline does not show in the world. -/
theorem pipeline_updatePipeline {β : Type} {f : Pipeline → Pipeline} {g : Pipeline → β}
    (hg : ∀ x, g (f x) = g x) (w : World σ) (p q : PipelineId) :
    g ((w.updatePipeline p f).pipeline q) = g (w.pipeline q) := by
  rw [pipeline, updatePipeline, List.getElem?_modify, pipeline]
  cases w.pipelines[q]? with
  | none => rfl
  | some x =>
      rw [Option.map_eq_map, Option.map_some, Option.getD_some, Option.getD_some]
      by_cases hq : p = q
      · rw [if_pos hq, hg]
      · rw [if_neg hq]

theorem chain_updateActivation (w : World σ) (p q : PipelineId) (f : Activation → Activation) :
    (w.updateActivation p f).chain q = w.chain q :=
  pipeline_updatePipeline (f := fun x => { x with activation := f x.activation })
    (g := Pipeline.chain) (fun _ => rfl) w p q

theorem loopOf_updateActivation (w : World σ) (p q : PipelineId) (f : Activation → Activation) :
    (w.updateActivation p f).loopOf q = w.loopOf q := by
  have hattachment : ((w.updateActivation p f).pipeline q).attachment = (w.pipeline q).attachment :=
    pipeline_updatePipeline (f := fun x => { x with activation := f x.activation })
      (g := Pipeline.attachment) (fun _ => rfl) w p q
  rw [loopOf, hattachment, loopOf]

theorem Ready.congr (h : w.Ready p) (hloop : w'.loopOf p = w.loopOf p)
    (hthread : w'.inQueueThread = w.inQueueThread) (hkept : w'.isKept p = true) :
    w'.Ready p where
  inLoop := by
    have hin := h.inLoop
    rw [hloop]
    cases hk : w.loopOf p with
    | inline => rfl
    | queued =>
        rw [hk] at hin
        exact hthread.trans hin
  kept := hkept

/-- What is held is kept. -/
theorem isKept_hold (w : World σ) (p : PipelineId) : (w.hold (.pipeline p)).isKept p = true := by
  simp [isKept, hold, pipelineKept]

/-- Work for a pipeline that is ready is done at once. -/
theorem Ready.execute [Journal σ] (h : w.Ready p) (call : Caller σ) (job : Job) :
    w.execute call p job = w.runJob call p job :=
  if_pos h.inLoop

/-- Nor do hosting and readiness depend on what waits at a place. -/
theorem Hosts.setContainer (h : w.Hosts p l) (place : Place) (x : Container) :
    (w.setContainer place x).Hosts p l := by
  have hbare := bare_setContainer w place x
  exact h.congr (chain_congr (congrArg World.pipelines hbare) p) (congrArg World.contexts hbare)

theorem Ready.setContainer (h : w.Ready p) (place : Place) (x : Container) :
    (w.setContainer place x).Ready p := by
  have hbare := bare_setContainer w place x
  have hthread : (w.setContainer place x).bare.inQueueThread = w.bare.inQueueThread := by rw [hbare]
  have hkept : (w.setContainer place x).bare.isKept p = w.bare.isKept p := by rw [hbare]
  exact h.congr (loopOf_congr (congrArg World.pipelines hbare) p) hthread (hkept.trans h.kept)

/-! ### Promises and transports -/

/-- The world after a promise was kept that nobody was waiting for. -/
def settled (w : World σ) (f : PromiseId) (outcome : Outcome) : World σ :=
  w.setPromise f { outcome := some outcome }

/-- A new promise is kept, and there is nobody to tell. -/
theorem complete_new [Journal σ] (w : World σ) {f : PromiseId} (h : w.promise f = {})
    (call : Caller σ) (outcome : Outcome) :
    w.complete call f outcome = (true, w.settled f outcome) := by
  rw [complete, h]
  rfl

theorem outcome_settled {f : PromiseId} (hf : f < w.promises.length) (outcome : Outcome) :
    ((w.settled f outcome).promise f).outcome = some outcome := by
  rw [promise, settled, setPromise, List.getElem?_set_self hf, Option.getD_some]

theorem promise_congr (h : w'.promises = w.promises) (f : PromiseId) :
    w'.promise f = w.promise f := by
  rw [promise, h, promise]

theorem promise_newPromise (w : World σ) : w.newPromise.2.promise w.newPromise.1 = {} := by
  rw [promise, newPromise, List.getElem?_append_right (Nat.le_refl _), Nat.sub_self]
  rfl

/-- A promise that has just been made is kept. -/
theorem complete_newPromise [Journal σ] (w : World σ) (call : Caller σ) (outcome : Outcome) :
    w.newPromise.2.complete call w.promises.length outcome =
      (true, { w with promises := w.promises ++ [{ outcome := some outcome }] }) := by
  have hkept : (w.promises ++ [({} : Promise)]).set w.promises.length { outcome := some outcome } =
      w.promises ++ [{ outcome := some outcome }] := by
    rw [List.set_append_right _ _ (Nat.le_refl _), Nat.sub_self]
    rfl
  rw [show w.promises.length = w.newPromise.1 from rfl, complete_new _ (promise_newPromise w)]
  exact congrArg (fun promises => (true, { w with promises })) hkept

theorem transport_updateTransport {t : TransportId} (ht : t < w.transports.length)
    (f : Transport → Transport) : (w.updateTransport t f).transport t = f (w.transport t) := by
  rw [transport, updateTransport, List.getElem?_modify_eq, transport,
    List.getElem?_eq_getElem ht]
  rfl

theorem length_updateTransport (w : World σ) (t : TransportId) (f : Transport → Transport) :
    (w.updateTransport t f).transports.length = w.transports.length := by
  rw [updateTransport, List.length_modify]

/-! ### Where events go -/

theorem Hosts.findInbound (h : w.Hosts p l) {kind : EventKind} (hkind : kind.isInbound = true)
    (cursor : Cursor) :
    (w.chain p).findInbound cursor kind = (l.targets cursor kind).head?.map (·.id) := by
  rw [h.holds.findInbound_eq hkind, scan_eq]

theorem Hosts.findOutbound (h : w.Hosts p l) {kind : EventKind}
    (hkind : kind.isInbound = false) (cursor : Cursor) :
    (w.chain p).findOutbound cursor kind =
      (Roster.targets l.reverse cursor kind).head?.map (·.id) := by
  rw [h.holds.findOutbound_eq hkind, scan_eq]

/-- A collector asks for the inbound events, and for nothing else. -/
theorem Hosts.handles_collector (h : w.Hosts p l) {x : Member} (hx : x ∈ l) {t : TransportId}
    (hhandler : (w.context x.id).handler = .collector t) (kind : EventKind) :
    x.events.handles kind = kind.isInbound := by
  have hevents : x.events = EventSet.inbound := by
    rw [← h.events x hx, hhandler]
    rfl
  rw [hevents, EventSet.handles_inbound]

/-- Where nothing is inbound there is no target at the head. -/
theorem Hosts.no_targets (h : w.Hosts p l) {kind : EventKind} (hkind : kind.isInbound = true)
    (hin : (w.chain p).hasInbound = false) : l.targets .start kind = [] := by
  have hhead : first EventSet.isInbound l = none := by
    rw [← h.holds.inbound.start_eq]
    simpa [Chain.hasInbound] using hin
  -- No member counts as inbound, and what handles an inbound kind would.
  rw [first, Option.map_eq_none_iff, List.find?_eq_none] at hhead
  rw [targets, ahead, List.filter_eq_nil_iff]
  intro m hm hh
  exact hhead m hm (EventSet.isInbound_of_handles hkind hh)

/-- The pipeline of a member is there. -/
theorem Hosts.hasPipeline_eq (h : w.Hosts p l) (hready : w.Ready p) {m : Member} (hm : m ∈ l) :
    w.hasPipeline m.id = true := by
  rw [hasPipeline, h.pipeline m hm]
  exact hready.kept

/-! ### Where data goes -/

section Data

variable {m a : Member} {ms : Roster}

theorem Hosts.inboundTarget_some (h : w.Hosts p l) {cursor : Cursor}
    (hsome : l.targets cursor .messageUpdated = m :: ms) :
    w.inboundTarget p cursor = .inbound m.id := by
  rw [inboundTarget, h.findInbound (by decide), hsome]
  rfl

theorem Hosts.outboundTarget_some (h : w.Hosts p l) {cursor : Cursor}
    (hsome : Roster.targets l.reverse cursor .flush = m :: ms) :
    w.outboundTarget p cursor = .outbound m.id := by
  rw [outboundTarget, h.findOutbound (by decide), hsome]
  rfl

theorem Hosts.outboundTarget_none (h : w.Hosts p l) {cursor : Cursor}
    (hnone : Roster.targets l.reverse cursor .flush = []) :
    w.outboundTarget p cursor = .sink p := by
  rw [outboundTarget, h.findOutbound (by decide), hnone]
  rfl

variable (h : w.Hosts p l) (hready : w.Ready p) (ha : a ∈ l)
include h hready ha

theorem Hosts.nextInbound_some (hsome : l.targets (.after a.id) .messageUpdated = m :: ms) :
    w.nextInbound a.id = .inbound m.id := by
  rw [nextInbound, if_pos (h.hasPipeline_eq hready ha), h.pipeline a ha, h.inboundTarget_some hsome]

theorem Hosts.nextOutbound_none (hnone : Roster.targets l.reverse (.after a.id) .flush = []) :
    w.nextOutbound a.id = .sink p := by
  rw [nextOutbound, if_pos (h.hasPipeline_eq hready ha), h.pipeline a ha,
    h.outboundTarget_none hnone]

end Data

section Dispatch

variable [Journal σ] {m : Member} {ms : Roster}

/-- What is done when the handler of a context fails over an event. -/
def onFailure (call : Caller σ) (p : PipelineId) (event : InboundEvent) (c : ContextId)
    (cause : Error) (w : World σ) : World σ :=
  match event with
  | .exceptionCaught _ => w.notice (.exceptionHandlerFailed (w.context c).name cause)
  | .messageUpdated =>
    (w.updateContainer (.inbound c) (·.discardReadBytes)).reportFailure call p c
      .messageUpdated cause
  | event => w.reportFailure call p c event.kind cause

theorem fireNow_eq (w : World σ) (call : Caller σ) (p : PipelineId) (cursor : Cursor)
    (event : InboundEvent) :
    w.fireNow call p cursor event = w.dispatch call p cursor event (onFailure call p event) := by
  cases event <;> rfl

/-- An event is brought to its first target. -/
theorem Hosts.dispatch_some (h : w.Hosts p l) {cursor : Cursor} {event : InboundEvent}
    (hsome : l.targets cursor event.kind = m :: ms) (call : Caller σ)
    (failed : ContextId → Error → World σ → World σ) :
    w.dispatch call p cursor event failed =
      match call (.handler m.id (.inbound event)) w with
      | (.ok _, w) => w
      | (.error cause, w) => failed m.id cause w := by
  have hfind : (w.chain p).findInbound cursor event.kind = some m.id := by
    rw [h.findInbound event.kind_isInbound, hsome]
    rfl
  have hstart : ¬ (cursor = .start ∧ (w.chain p).hasInbound = false) := by
    -- An empty inbound side is skipped, but then there would be no target.
    rintro ⟨rfl, hin⟩
    rw [h.no_targets event.kind_isInbound hin] at hsome
    exact absurd hsome (by simp)
  obtain ⟨outcome, w₁, hcall⟩ : ∃ outcome w₁,
      call (.handler m.id (.inbound event)) w = (outcome, w₁) := ⟨_, _, rfl⟩
  cases outcome with
  | ok _ => simp only [dispatch, if_neg hstart, hfind, hcall]
  | error cause => simp only [dispatch, if_neg hstart, hfind, hcall]

/-- A request is brought to its first target, which does with it what it likes. -/
theorem Hosts.sendNow_some (h : w.Hosts p l) {cursor : Cursor} {r : Request}
    (hkind : r.kind.isInbound = false) (hsome : Roster.targets l.reverse cursor r.kind = m :: ms)
    {call : Caller σ} (hcall : call (.handler m.id (.outbound r)) w = (.ok (), w')) :
    w.sendNow call p cursor r = w' := by
  rw [sendNow, h.findOutbound hkind, hsome]
  dsimp only [List.head?_cons, Option.map_some]
  rw [hcall]

/-- A request past the last target goes to the sink. -/
theorem Hosts.sendNow_none (h : w.Hosts p l) {cursor : Cursor} {r : Request}
    (hkind : r.kind.isInbound = false) (hnone : Roster.targets l.reverse cursor r.kind = [])
    (call : Caller σ) : w.sendNow call p cursor r = w.sinkRequest call p r := by
  rw [sendNow, h.findOutbound hkind, hnone]
  rfl

/-- The user answers for a context of the user's. -/
theorem respond_user {c : ContextId} {tag : Nat} (h : (w.context c).handler.role = .custom tag)
    (user : Caller σ → Caller σ) (depth : Nat) (callback : Callback) :
    respond user (depth + 1) (.handler c callback) w =
      user (respond user depth) (.handler c callback) w := by
  rw [respond, answer, handlerCalled, h]

/-- A collector takes every inbound event, and changes nothing but data. -/
theorem respond_collector {c : ContextId} {t : TransportId}
    (h : (w.context c).handler = .collector t) (user : Caller σ → Caller σ) (depth : Nat)
    (event : InboundEvent) :
    respond user (depth + 1) (.handler c (.inbound event)) w = (.ok (), w.collect c t event) := by
  rw [respond, answer, handlerCalled, h]
  rfl

theorem Hosts.fireNow_collector (h : w.Hosts p l) {cursor : Cursor} {event : InboundEvent}
    (hsome : l.targets cursor event.kind = m :: ms) {t : TransportId}
    (hm : (w.context m.id).handler = .collector t) (user : Caller σ → Caller σ) (depth : Nat) :
    w.fireNow (respond user (depth + 1)) p cursor event = w.collect m.id t event := by
  rw [fireNow_eq, h.dispatch_some hsome, respond_collector hm]

variable (h : w.Hosts p l) (hready : w.Ready p) (hm : m ∈ l)
include h hready hm

/-- Work for the pipeline of a member is done at once, while the pipeline is held. -/
theorem Hosts.executeFor_eq (call : Caller σ) (job : Job) :
    w.executeFor call m.id job =
      ((w.hold (.pipeline p)).runJob call p job).release (.pipeline p) := by
  have hheld : (w.hold (.pipeline p)).Ready p := hready.congr rfl rfl (isKept_hold w p)
  rw [executeFor, h.pipeline m hm, hheld.execute]

theorem Hosts.fireFrom_eq (call : Caller σ) (event : InboundEvent) :
    w.fireFrom call m.id event =
      ((w.hold (.pipeline p)).fireNow call p (.after m.id) event).release (.pipeline p) := by
  -- Nothing stands in the way: the context is linked and its pipeline is held.
  simp only [fireFrom, h.linked m hm, h.hasPipeline_eq hready hm, h.executeFor_eq hready hm]
  rfl

theorem Hosts.requestWith_eq (call : Caller σ) (r : Request) :
    w.requestWith call m.id r =
      ((w.hold (.pipeline p)).sendNow call p (.after m.id) r).release (.pipeline p) := by
  have hnone : w.refusal m.id = none := by
    simp only [refusal, h.linked m hm, h.hasPipeline_eq hready hm]
    rfl
  rw [requestWith, hnone]
  exact h.executeFor_eq hready hm call _

omit h hready hm in
/-- A member passes an event on to a collector. -/
theorem Hosts.fireFrom_collector (h : w.Hosts p l) (hready : w.Ready p) {a : Member} (ha : a ∈ l)
    (event : InboundEvent) (hsome : l.targets (.after a.id) event.kind = m :: ms)
    {t : TransportId} (hm : (w.context m.id).handler = .collector t) (user : Caller σ → Caller σ)
    (depth : Nat) :
    w.fireFrom (respond user (depth + 1)) a.id event = w.collect m.id t event := by
  have hheld : (w.hold (.pipeline p)).Hosts p l := h.congr rfl rfl
  have hcollect : (w.hold (.pipeline p)).collect m.id t event =
      (w.collect m.id t event).hold (.pipeline p) := by
    cases event <;> rfl
  rw [h.fireFrom_eq hready ha, hheld.fireNow_collector hsome hm, hcollect, release_hold]

end Dispatch

end World

end Conduit
