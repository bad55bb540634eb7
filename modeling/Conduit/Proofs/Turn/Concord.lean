import Conduit.Proofs.Turn.Counterpart
import Conduit.Proofs.Dispatch.Static

/-!
# Working in Step

What is done at once in one world and in turn in another one comes to the same. The
worlds are counterparts before, and if whoever is called leaves counterparts behind, they
are counterparts after. There is one lemma for each function of the library, and they
end in the knot of handlers and library, as always by induction on the depth of the
calls.

Handlers may be anything that answers alike in both worlds. The library's own do, and so
do those of a cast. Listeners and tasks are not called: no promise has a listener, and
work on the thread of the event loop posts nothing.

## Main definitions

* `Setting.Admits`: A call that can come up in a setting.
* `World.Concurs`: Whoever is called leaves counterparts behind.

## Theorems

* `Counterpart.asked`, `Counterpart.complete`: Both worlds ask, and both settle a promise.
* `Counterpart.unheard`, `Counterpart.fellOff`, `Counterpart.dispatch`, `Counterpart.raise`,
  `Counterpart.reportFailure`, `Counterpart.fireNow`: Delivering an event.
* `Counterpart.sinkRequest`, `Counterpart.sendNow`: Delivering a request.
* `Counterpart.start`, `Counterpart.activeNow`, `Counterpart.openNow`,
  `Counterpart.updatedNow`, `Counterpart.runJob`, `Counterpart.execute`,
  `Counterpart.fire`: Doing work.
* `Counterpart.executeFor`, `Counterpart.fireFrom`, `Counterpart.requestWith`,
  `Counterpart.forwardInbound`, `Counterpart.forwardOutbound`, `Counterpart.byDefault`:
  Passing an event on.
* `Counterpart.deliver`, `Counterpart.collect`, `Counterpart.hangUp`,
  `Counterpart.perform`, `Counterpart.carryOut`, `Counterpart.refuse`: The ends of a
  pipeline.
* `Counterpart.notices`, `Counterpart.handOn`, `Counterpart.decodeLoose`,
  `Counterpart.decoderCalled`, `Counterpart.textCalled`: Codecs.
* `Counterpart.handlerCalled`, `Counterpart.sinkCalled`, `Concurs.answer`, `Concurs.play`:
  Who answers.
* `respond_concurs`: Handlers of a cast and of the library, however deeply nested.
-/

namespace Conduit

/-- A call that can come up: no listener and no task is called, and requests have promises
    that are due. -/
def Setting.Admits (s : Setting) : Upcall → Prop
  | .handler _ (.outbound r) | .sink _ _ (.sunk r) => r.promise < s.made
  | .handler _ _ | .sink _ _ (.exceptionCaught _) => True
  | .listener _ _ | .task _ => False

namespace World

variable {σ : Type} {u v : World σ} {s : Setting} {call : Caller σ}

/-- Two answers agree: the outcome is the same, and the worlds are counterparts. -/
def Accord {α : Type} (s : Setting) (a b : α × World σ) : Prop :=
  b.1 = a.1 ∧ Counterpart s a.2 b.2

/-- Whoever is called answers alike in both worlds. -/
def Concurs (call : Caller σ) : Prop :=
  ∀ {s : Setting} {upcall : Upcall} {u v : World σ}, s.Admits upcall → Counterpart s u v →
    Accord s (call upcall u) (call upcall v)

namespace Counterpart

/-- Both worlds have been asked, and this is what they answered. -/
theorem asked (h : Counterpart s u v) (hcall : Concurs call) (upcall : Upcall)
    (hadmits : s.Admits upcall) :
    ∃ outcome u₁ v₁, call upcall u = (outcome, u₁) ∧ call upcall v = (outcome, v₁) ∧
      Counterpart s u₁ v₁ := by
  have haccord := hcall hadmits h
  exact ⟨(call upcall u).1, (call upcall u).2, (call upcall v).2, rfl,
    Prod.ext haccord.1 rfl, haccord.2⟩

variable [Journal σ] (h : Counterpart s u v)
include h

/-! ### Promises -/

theorem complete {f : PromiseId} (hf : f < s.made) (call : Caller σ) (outcome : Outcome) :
    Counterpart s (u.complete call f outcome).2 (v.complete call f outcome).2 := by
  rw [World.complete, World.complete, h.promise hf, Promise.keep]
  cases houtcome : (u.promise f).outcome with
  | some _ => exact h
  | none =>
      rw [h.listeners hf]
      have hset := h.setPromise hf (x := { outcome := some outcome }) rfl
      exact { hset with woken := congrArg ((u.promise f).wakers.reverse ++ ·) h.woken }

/-! ### Inbound -/

theorem unheard (p : PipelineId) (kind : EventKind) :
    Counterpart s (u.unheard p kind) (v.unheard p kind) := by
  have hnoted := h.notice (.noInboundHandlers kind)
  rw [World.unheard, World.unheard]
  by_cases hkind : kind = .messageUpdated
  · rw [if_pos hkind, if_pos hkind]
    exact hnoted.updateContainer (.tail p) _
  · rw [if_neg hkind, if_neg hkind]
    exact hnoted

theorem fellOff (p : PipelineId) (event : InboundEvent) :
    Counterpart s (u.fellOff p event) (v.fellOff p event) := by
  cases event with
  | exceptionCaught cause => exact h.notice _
  | messageUpdated =>
      rw [World.fellOff, World.fellOff, h.container]
      by_cases hempty : (u.container (.tail p)).isEmpty = true
      · rw [if_pos hempty, if_pos hempty]
        exact h
      · rw [if_neg hempty, if_neg hempty]
        exact (h.notice _).setContainer (.tail p) _
  | _ => exact h

theorem dispatch (hcall : Concurs call) {failed : ContextId → Error → World σ → World σ}
    (hfailed : ∀ c cause {u v}, Counterpart s u v →
      Counterpart s (failed c cause u) (failed c cause v))
    (p : PipelineId) (cursor : Cursor) (event : InboundEvent) :
    Counterpart s (u.dispatch call p cursor event failed)
      (v.dispatch call p cursor event failed) := by
  rw [World.dispatch, World.dispatch, h.chain]
  by_cases hstart : cursor = .start ∧ (u.chain p).hasInbound = false
  · rw [if_pos hstart, if_pos hstart]
    exact h.unheard p event.kind
  · rw [if_neg hstart, if_neg hstart]
    cases (u.chain p).findInbound cursor event.kind with
    | none => exact h.fellOff p event
    | some c =>
        rcases h.asked hcall (.handler c (.inbound event)) trivial with
          ⟨outcome, u₁, v₁, hu, hv, h₁⟩
        dsimp only
        rw [hu, hv]
        cases outcome with
        | ok _ => exact h₁
        | error cause => exact hfailed c cause h₁

theorem raise (hcall : Concurs call) (p : PipelineId) (cursor : Cursor) (cause : Error) :
    Counterpart s (u.raise call p cursor cause) (v.raise call p cursor cause) := by
  refine h.dispatch hcall (fun c cause u v h => ?_) p cursor (.exceptionCaught cause)
  rw [h.context]
  exact h.notice _

theorem reportFailure (hcall : Concurs call) (p : PipelineId) (c : ContextId) (kind : EventKind)
    (cause : Error) :
    Counterpart s (u.reportFailure call p c kind cause) (v.reportFailure call p c kind cause) := by
  rw [World.reportFailure, World.reportFailure, h.context]
  exact h.raise hcall p _ _

theorem fireNow (hcall : Concurs call) (p : PipelineId) (cursor : Cursor) (event : InboundEvent) :
    Counterpart s (u.fireNow call p cursor event) (v.fireNow call p cursor event) := by
  cases event with
  | exceptionCaught cause => exact h.raise hcall p cursor cause
  | messageUpdated =>
      refine h.dispatch hcall (fun c cause u v h => ?_) p cursor .messageUpdated
      exact (h.updateContainer (.inbound c) _).reportFailure hcall p c _ cause
  | _ => exact h.dispatch hcall (fun c cause _ _ h => h.reportFailure hcall p c _ cause) p cursor _

/-! ### Outbound -/

theorem sinkRequest (hcall : Concurs call) (p : PipelineId) {r : Request}
    (hr : r.promise < s.made) :
    Counterpart s (u.sinkRequest call p r) (v.sinkRequest call p r) := by
  rcases h.asked hcall (.sink p (u.sinkOf p) (.sunk r)) hr with
    ⟨outcome, u₁, v₁, hu, hv, h₁⟩
  rw [World.sinkRequest, World.sinkRequest, h.sinkOf]
  dsimp only
  rw [hu, hv]
  cases outcome with
  | ok _ => exact h₁
  | error cause =>
      -- The request fails in both worlds before the sink is asked for a remedy.
      have h₂ := h₁.complete hr call (.error cause)
      rcases h₂.asked hcall (.sink p (u.sinkOf p) (.exceptionCaught cause)) trivial with
        ⟨outcome, u₃, v₃, hu, hv, h₃⟩
      dsimp only
      rw [hu, hv]
      cases outcome with
      | ok _ => exact h₃
      | error second => exact (h₃.notice _).raise hcall p .start second

theorem sendNow (hcall : Concurs call) (p : PipelineId) (cursor : Cursor) {r : Request}
    (hr : r.promise < s.made) :
    Counterpart s (u.sendNow call p cursor r) (v.sendNow call p cursor r) := by
  rw [World.sendNow, World.sendNow, h.chain]
  cases (u.chain p).findOutbound cursor r.kind with
  | none => exact h.sinkRequest hcall p hr
  | some c =>
      rcases h.asked hcall (.handler c (.outbound r)) hr with
        ⟨outcome, u₁, v₁, hu, hv, h₁⟩
      dsimp only
      rw [hu, hv]
      cases outcome with
      | ok _ => exact h₁
      | error cause =>
          dsimp only
          by_cases hflush : r.kind = .flush
          · have hread := h₁.updateContainer (.outbound c) (·.discardReadBytes)
            rw [if_pos hflush, if_pos hflush]
            exact (hread.complete hr call _).reportFailure hcall p c _ cause
          · rw [if_neg hflush, if_neg hflush]
            exact (h₁.complete hr call _).reportFailure hcall p c _ cause

/-! ### Jobs -/

/-- A pulse is dispatched alike, and taken down alike. -/
theorem start (hcall : Concurs call) (p : PipelineId) (e : Pulse) :
    Counterpart s (u.start call p e) (v.start call p e) :=
  ((h.mark p (.started e)).fireNow hcall p .start e.event).mark p (.finished e)

theorem activeNow (hcall : Concurs call) (p : PipelineId) :
    Counterpart s (u.activeNow call p) (v.activeNow call p) := by
  rw [World.activeNow, World.activeNow, h.activation]
  by_cases hopened : (u.pipeline p).activation.opened = true
  · -- Whether there is something to replay is decided alike, after the handlers were called.
    have hactive := h.updateActivation p ({ · with active := true })
    have hstarted := hactive.start hcall p .activated
    have hreplay := hstarted.updateActivation p ({ · with pendingUpdate := false })
    rw [if_pos hopened, if_pos hopened]
    dsimp only
    rw [hstarted.activation]
    split
    · exact hreplay.start hcall p .updated
    · exact hreplay
  · rw [if_neg hopened, if_neg hopened]
    exact (h.notice _).updateActivation p _

theorem openNow (hcall : Concurs call) (p : PipelineId) :
    Counterpart s (u.openNow call p) (v.openNow call p) := by
  have hopened := h.updateActivation p ({ · with opened := true, pendingActive := false })
  have hstarted := hopened.start hcall p .opened
  rw [World.openNow, World.openNow, h.activation]
  cases (u.pipeline p).activation.pendingActive with
  | true => exact hstarted.activeNow hcall p
  | false => exact hstarted

theorem updatedNow (hcall : Concurs call) (p : PipelineId) :
    Counterpart s (u.updatedNow call p) (v.updatedNow call p) := by
  rw [World.updatedNow, World.updatedNow, h.activation]
  by_cases hactive : (u.pipeline p).activation.active = true
  · rw [if_pos hactive, if_pos hactive]
    exact h.start hcall p .updated
  · rw [if_neg hactive, if_neg hactive]
    exact h.updateActivation p _

/-- Work is the same in both worlds, if what it promises is due. -/
theorem runJob (hcall : Concurs call) (p : PipelineId) {job : Job}
    (hjob : ∀ f ∈ job.promise?, f < s.made) :
    Counterpart s (u.runJob call p job) (v.runJob call p job) := by
  cases job with
  | «open» => exact (h.mark p (.fired .opened)).openNow hcall p
  | active => exact (h.mark p (.fired .activated)).activeNow hcall p
  | inactive =>
      have hfired := h.mark p (.fired .deactivated)
      have hstill := hfired.updateActivation p ({ · with active := false })
      exact hstill.start hcall p .deactivated
  | updated => exact (h.mark p (.fired .updated)).updatedNow hcall p
  | fire cursor event => exact h.fireNow hcall p cursor event
  | feed msg =>
      rw [World.runJob, World.runJob, h.inboundTarget]
      exact h.updateContainer _ _
  | send cursor r => exact h.sendNow hcall p cursor (hjob _ rfl)
  | write cursor msg promise =>
      rw [World.runJob, World.runJob, h.outboundTarget]
      exact (h.updateContainer _ _).sendNow hcall p cursor (hjob _ rfl)

/-- On its own thread either world does it at once. -/
theorem execute (hcall : Concurs call) (p : PipelineId) {job : Job}
    (hjob : ∀ f ∈ job.promise?, f < s.made) :
    Counterpart s (u.execute call p job) (v.execute call p job) := by
  rw [World.execute, World.execute, if_pos (h.inLoop p).1, if_pos (h.inLoop p).2]
  exact h.runJob hcall p hjob

theorem fire (hcall : Concurs call) (p : PipelineId) (event : InboundEvent) :
    Counterpart s (u.fire call p event) (v.fire call p event) := by
  refine h.execute hcall p fun f hf => ?_
  cases event <;> exact absurd hf (Option.not_mem_none f)

/-! ### Contexts -/

theorem executeFor (hcall : Concurs call) (c : ContextId) {job : Job}
    (hjob : ∀ f ∈ job.promise?, f < s.made) :
    Counterpart s (u.executeFor call c job) (v.executeFor call c job) := by
  rw [World.executeFor, World.executeFor, h.context]
  exact ((h.hold _).execute hcall _ hjob).release

theorem fireFrom (hcall : Concurs call) (c : ContextId) (event : InboundEvent) :
    Counterpart s (u.fireFrom call c event) (v.fireFrom call c event) := by
  rw [World.fireFrom, World.fireFrom, h.context, h.hasPipeline]
  by_cases hremoved : (u.context c).removed = true
  · rw [if_pos hremoved, if_pos hremoved]
    exact h.notice _
  · rw [if_neg hremoved, if_neg hremoved]
    by_cases hpipeline : u.hasPipeline c = true
    · rw [if_pos hpipeline, if_pos hpipeline]
      exact h.executeFor hcall c fun f hf => absurd hf (Option.not_mem_none f)
    · rw [if_neg hpipeline, if_neg hpipeline]
      exact h.notice _

theorem requestWith (hcall : Concurs call) (c : ContextId) {r : Request}
    (hr : r.promise < s.made) :
    Counterpart s (u.requestWith call c r) (v.requestWith call c r) := by
  rw [World.requestWith, World.requestWith, h.refusal]
  cases u.refusal c with
  | none => exact h.executeFor hcall c fun f hf => Option.mem_some.mp hf ▸ hr
  | some cause => exact h.complete hr call _

omit [Journal σ] in
theorem forwardInbound (c : ContextId) :
    Counterpart s (u.forwardInbound c) (v.forwardInbound c) := by
  rw [World.forwardInbound, World.forwardInbound, h.container, h.nextInbound]
  split
  · exact h
  · exact h.moveAll _ _

omit [Journal σ] in
theorem forwardOutbound (c : ContextId) :
    Counterpart s (u.forwardOutbound c) (v.forwardOutbound c) := by
  rw [World.forwardOutbound, World.forwardOutbound, h.container, h.nextOutbound]
  split
  · exact h
  · exact h.moveAll _ _

theorem byDefault (hcall : Concurs call) (c : ContextId) {callback : Callback}
    (hadmits : s.Admits (.handler c callback)) :
    Counterpart s (u.byDefault call c callback) (v.byDefault call c callback) := by
  cases callback with
  | hook hook => exact h
  | inbound event =>
      cases event with
      | messageUpdated => exact (h.forwardInbound c).fireFrom hcall c _
      | _ => exact h.fireFrom hcall c _
  | outbound r =>
      obtain ⟨action, f⟩ := r
      cases action with
      | flush => exact (h.forwardOutbound c).requestWith hcall c hadmits
      | _ => exact h.requestWith hcall c hadmits

/-! ### The ends of a pipeline -/

omit [Journal σ] in
theorem deliver (source : Place) (t : TransportId) (side : Side) :
    Counterpart s (u.deliver source t side) (v.deliver source t side) := by
  rw [World.deliver, World.deliver, h.container, h.transport]
  exact (h.setContainer source _).updateTransport t _

omit [Journal σ] in
theorem collect (c : ContextId) (t : TransportId) (event : InboundEvent) :
    Counterpart s (u.collect c t event) (v.collect c t event) := by
  cases event with
  | exceptionCaught cause => exact h.updateTransport t _
  | userEventTriggered msg => exact h.updateTransport t _
  | messageUpdated => exact h.deliver _ t _
  | _ => exact h

theorem hangUp (hcall : Concurs call) (p : PipelineId) (t : TransportId) {f : PromiseId}
    (hf : f < s.made) : Counterpart s (u.hangUp call p t f) (v.hangUp call p t f) := by
  have hclosed := h.updateTransport t ({ · with isActive := false, isOpen := false })
  have hkept := hclosed.complete hf call (.ok ())
  rw [World.hangUp, World.hangUp, h.transport]
  cases (u.transport t).isActive with
  | true => exact hkept.fire hcall p .channelInactive
  | false => exact hkept

theorem perform (hcall : Concurs call) (p : PipelineId) (t : TransportId) {r : Request}
    (hr : r.promise < s.made) : Counterpart s (u.perform call p t r) (v.perform call p t r) := by
  have hsunk := h.updateTransport t fun x => { x with sunk := x.sunk ++ [r.kind] }
  obtain ⟨action, f⟩ := r
  cases action with
  | bind address => exact (hsunk.updateTransport t _).complete hr call _
  | connect remote origin => exact (hsunk.updateTransport t _).complete hr call _
  | disconnect => exact hsunk.hangUp hcall p t hr
  | close => exact hsunk.hangUp hcall p t hr
  | flush => exact (hsunk.deliver (.sink p) t .outbound).complete hr call _

theorem carryOut (hcall : Concurs call) (p : PipelineId) (t : TransportId) {sink : Sink}
    {ask : SinkCall} (hadmits : s.Admits (.sink p sink ask)) :
    Counterpart s (u.carryOut call p t ask) (v.carryOut call p t ask) := by
  cases ask with
  | sunk r => exact h.perform hcall p t hadmits
  | exceptionCaught cause => exact h.fire hcall p (.exceptionCaught cause)

theorem refuse (call : Caller σ) (p : PipelineId) {sink : Sink} {ask : SinkCall}
    (hadmits : s.Admits (.sink p sink ask)) :
    Accord s (u.refuse call p ask) (v.refuse call p ask) := by
  cases ask with
  | sunk r =>
      have hcleared := (h.updateContainer (.sink p) (·.clear)).notice (.notAttached r.kind)
      exact ⟨rfl, hcleared.complete hadmits call _⟩
  | exceptionCaught cause => exact ⟨rfl, h⟩

/-! ### Codecs -/

theorem notices (ns : List Notice) :
    Counterpart s (ns.foldl World.notice u) (ns.foldl World.notice v) := by
  induction ns generalizing u v with
  | nil => exact h
  | cons n ns ih => exact ih (h.notice n)

theorem handOn (hcall : Concurs call) (c : ContextId) (msgs : List Message) :
    Counterpart s (u.handOn call c msgs) (v.handOn call c msgs) := by
  rw [World.handOn, World.handOn, h.nextInbound]
  split
  · exact h
  · exact (h.updateContainer _ _).fireFrom hcall c _

section Codec

variable {δ : Type} {keep : δ → World σ → World σ}
  (hkeep : ∀ state {u v}, Counterpart s u v → Counterpart s (keep state u) (keep state v))
include hkeep

theorem decodeLoose (hcall : Concurs call) (c : ContextId) (d : Decoder δ) (state : δ)
    (atEnd : Bool) :
    Accord s (u.decodeLoose call c d state keep atEnd)
      (v.decodeLoose call c d state keep atEnd) := by
  have hkept : ∀ (own : Container) (state : δ) (ns : List Notice),
      Counterpart s (keep state (ns.foldl World.notice (u.setContainer (.inbound c) own)))
        (keep state (ns.foldl World.notice (v.setContainer (.inbound c) own))) :=
    fun own state ns => hkeep state ((h.setContainer _ own).notices ns)
  rw [World.decodeLoose, World.decodeLoose, h.container]
  dsimp only
  split
  · exact ⟨rfl, hkept _ _ _⟩
  · exact ⟨rfl, (hkept _ _ _).handOn hcall c _⟩

theorem decoderCalled (hcall : Concurs call) (c : ContextId) (d : Decoder δ) (state : δ)
    {callback : Callback} (hadmits : s.Admits (.handler c callback)) :
    Accord s (u.decoderCalled call c d state keep callback)
      (v.decoderCalled call c d state keep callback) := by
  unfold World.decoderCalled
  split
  · have hloose := h.decodeLoose hkeep hcall c d state false
    exact ⟨congrArg Ending.outcome hloose.1, hloose.2⟩
  · have hrest := h.decodeLoose hkeep hcall c d state true
    rw [World.decodeRest, World.decodeRest]
    cases hu : u.decodeLoose call c d state keep true with
    | mk ending u₁ =>
        cases hv : v.decodeLoose call c d state keep true with
        | mk ending' v₁ =>
            rw [hu, hv] at hrest
            obtain ⟨rfl, h₁⟩ : ending' = ending ∧ Counterpart s u₁ v₁ := hrest
            -- After a panic the event is not passed on.
            cases ending' with
            | panicked cause => exact ⟨rfl, h₁⟩
            | _ => exact ⟨rfl, h₁.fireFrom hcall c .channelInactive⟩
  · exact ⟨rfl, h.byDefault hcall c hadmits⟩

end Codec

theorem textCalled (hcall : Concurs call) (c : ContextId) (order : ByteOrder)
    {callback : Callback} (hadmits : s.Admits (.handler c callback)) :
    Accord s (u.textCalled call c order callback) (v.textCalled call c order callback) := by
  unfold World.textCalled
  split
  · rw [World.textInbound, World.textInbound, h.container]
    have hdecoded := (h.setContainer (.inbound c)
      (TextFrame.decodeContainer (u.container (.inbound c))).2.2).handOn hcall c
        (TextFrame.decodeContainer (u.container (.inbound c))).1
    dsimp only
    split
    · exact ⟨rfl, hdecoded⟩
    · exact ⟨rfl, hdecoded⟩
  · rw [World.textOutbound, World.textOutbound, h.nextOutbound, h.container, h.container]
    exact ⟨rfl, ((h.setContainer _ _).setContainer _ _).requestWith hcall c hadmits⟩
  · exact ⟨rfl, h.byDefault hcall c hadmits⟩

/-! ### Who answers -/

theorem handlerCalled {user : Caller σ} (hcall : Concurs call) (huser : Concurs user)
    (c : ContextId) {callback : Callback} (hadmits : s.Admits (.handler c callback)) :
    Accord s (u.handlerCalled call user c callback) (v.handlerCalled call user c callback) := by
  rw [World.handlerCalled, World.handlerCalled, h.context]
  cases (u.context c).handler.role with
  | passive => exact ⟨rfl, h.byDefault hcall c hadmits⟩
  | lines framer =>
      refine h.decoderCalled ?_ hcall c _ _ hadmits
      exact fun framer _ _ h => h.updateContext c _
  | text order => exact h.textCalled hcall c order hadmits
  | collector t =>
      cases callback with
      | inbound event => exact ⟨rfl, h.collect c t event⟩
      | _ => exact ⟨rfl, h.byDefault hcall c hadmits⟩
  | custom tag => exact huser hadmits h

theorem sinkCalled {user : Caller σ} (hcall : Concurs call) (huser : Concurs user)
    (p : PipelineId) {sink : Sink} {ask : SinkCall} (hadmits : s.Admits (.sink p sink ask)) :
    Accord s (u.sinkCalled call user p sink ask) (v.sinkCalled call user p sink ask) := by
  cases sink with
  | discarding => exact h.refuse call p hadmits
  | embedded t => exact ⟨rfl, h.carryOut hcall p t hadmits⟩
  | custom tag => exact huser hadmits h

end Counterpart

theorem Concurs.answer [Journal σ] {user : Caller σ} (hcall : Concurs call)
    (huser : Concurs user) : Concurs (World.answer call user) := by
  intro s upcall u v hadmits h
  cases upcall with
  | handler c callback => exact h.handlerCalled hcall huser c hadmits
  | sink p sink ask => exact h.sinkCalled hcall huser p hadmits
  | listener l f => exact absurd hadmits id
  | task tag => exact absurd hadmits id

/-- Whoever answers alike when called by those who do, does so however deeply the calls are
    nested. -/
theorem respond_concurs [Journal σ] {user : Caller σ → Caller σ}
    (huser : ∀ {call}, Concurs call → Concurs (user call)) (depth : Nat) :
    Concurs (respond user depth) := by
  induction depth with
  | zero => exact fun _ h => ⟨rfl, h⟩
  | succ depth ih => exact ih.answer (huser ih)

/-- The handlers of a cast answer alike: what they do depends on the calls so far. -/
theorem Concurs.play {call : Caller Diary} (hcall : Concurs call) (cast : Cast) :
    Concurs (cast.play call) := by
  intro s upcall u v hadmits h
  cases upcall with
  | handler c callback =>
      -- Both diaries are the same, so the cast decides alike.
      have hjotted : Counterpart s (u.jot (u.user.calls ++ [⟨c, callback⟩]))
          (v.jot (u.user.calls ++ [⟨c, callback⟩])) :=
        h.setUser fun diary => { diary with calls := u.user.calls ++ [⟨c, callback⟩] }
      rw [Cast.play, Cast.play, h.user]
      cases cast u.user.calls c callback with
      | proceed => exact ⟨rfl, hjotted.byDefault hcall c hadmits⟩
      | stop => exact ⟨rfl, hjotted⟩
      | fail cause => exact ⟨rfl, hjotted⟩
      | panic payload => exact ⟨rfl, hjotted⟩
  | _ => exact ⟨rfl, h⟩

end World

end Conduit
