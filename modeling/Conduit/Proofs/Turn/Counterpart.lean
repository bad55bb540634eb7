import Conduit.Pipeline.Response
import Conduit.Proofs.World.Places

/-!
# Counterparts

Two worlds that are the same, but that work is done in one of them where it is asked
for and in the other one on the thread of the event loop, later. There are four things
that tell them apart. The pipelines are lent different loops, other tasks wait, other
things are held meanwhile, and in the other world promises may have been made already
that are not due here yet.

None of that makes a difference to the work itself. On its own thread a queued loop does
at once what it is asked for, just as the inline one does. What is held matters as far as
it keeps a pipeline, and the pipelines that are kept are the same. And nobody asks for a
promise that is not due.

What does not change during the work is a `Setting`. Everything else is in step, and the
lemmas here say so for each way of looking at a world and of changing it.

## Main definitions

* `Surroundings`: What is held, what waits, and where the caller is.
* `Setting`: The surroundings of two counterparts.
* `World.Likeness`, `World.Counterpart`: The worlds are the same but for that.

## Theorems

* `Surroundings.keeps_hold`, `keeps_surroundings`: What is held, and what that keeps.
* `map_modify_of_commute`: An element that is changed in a mapped list.
* `Counterpart.context`, `Counterpart.transport`, `Counterpart.pipeline`,
  `Counterpart.chain`, `Counterpart.activation`, `Counterpart.sinkOf`,
  `Counterpart.container`: What is seen is the same.
* `Counterpart.isKept`, `Counterpart.inboundTarget`, `Counterpart.outboundTarget`,
  `Counterpart.hasPipeline`, `Counterpart.nextInbound`, `Counterpart.nextOutbound`,
  `Counterpart.refusal`: So is what follows from it.
* `Counterpart.promise`, `Counterpart.listeners`: Promises that are due.
* `Counterpart.inLoop`: Work is done at once in both worlds.
* `Counterpart.updateContext`, `Counterpart.updatePipeline`,
  `Counterpart.updateTransport`, `Counterpart.setContainer`,
  `Counterpart.updateContainer`, `Counterpart.moveAll`, `Counterpart.updateActivation`,
  `Counterpart.setUser`, `Counterpart.notice`, `Counterpart.mark`, `Counterpart.hold`,
  `Counterpart.release`, `Counterpart.setPromise`: What is changed alike stays alike.
-/

namespace Conduit

/-- A pipeline without the event loop that it is lent. -/
def Pipeline.unbound (x : Pipeline) : Pipeline :=
  { x with attachment := x.attachment.map ({ · with loop := .inline }) }

/-- What is held, what waits and where the caller is. -/
structure Surroundings where
  held : List Holding
  queue : TaskQueue Task
  channels : List Channel
  inQueueThread : Bool

/-- A pipeline is held directly, or by a channel of it, or by a task that waits. -/
def Surroundings.keeps (s : Surroundings) (p : PipelineId) : Bool :=
  s.held.any (fun
    | .pipeline q => q == p
    | .channel ch => ((s.channels[ch]?).getD default).pipeline == p) ||
  s.queue.pending.any (·.holds p)

/-- One more holder. -/
def Surroundings.hold (s : Surroundings) (x : Holding) : Surroundings :=
  { s with held := x :: s.held }

theorem Surroundings.keeps_hold (s : Surroundings) (p q : PipelineId) :
    (s.hold (.pipeline p)).keeps q = ((p == q) || s.keeps q) := by
  rw [keeps, hold, List.any_cons, Bool.or_assoc, keeps]

/-- The surroundings of two worlds, one where work is done at once and another one where it is
    done on the thread of the event loop. -/
structure Setting where
  near : Surroundings
  far : Surroundings
  /-- The event loops of the far world. -/
  loop : PipelineId → LoopKind
  /-- How many promises have been made in the near world. -/
  made : Nat
  /-- The promises that have been made in the far world only. -/
  extra : List Promise
  kept : ∀ p, far.keeps p = near.keeps p
  inTurn : far.inQueueThread = true

/-- The setting with one more holder in both worlds. -/
def Setting.hold (s : Setting) (p : PipelineId) : Setting where
  near := s.near.hold (.pipeline p)
  far := s.far.hold (.pipeline p)
  loop := s.loop
  made := s.made
  extra := s.extra
  kept := fun q => by rw [Surroundings.keeps_hold, Surroundings.keeps_hold, s.kept]
  inTurn := s.inTurn

/-- Changing an element in a way that a map passes on changes the element of the mapped list. -/
theorem map_modify_of_commute {α β : Type} {f : α → α} {f' : β → β} {g : α → β}
    (h : ∀ x, g (f x) = f' (g x)) :
    ∀ (l : List α) (i : Nat), (l.modify i f).map g = (l.map g).modify i f' := by
  intro l
  induction l with
  | nil => intro i; cases i <;> rfl
  | cons x l ih =>
      intro i
      cases i with
      | zero => exact congrArg (· :: l.map g) (h x)
      | succ n => exact congrArg (g x :: ·) (ih n)

namespace World

variable {σ : Type} {u v : World σ} {s : Setting}

def surroundings (w : World σ) : Surroundings := ⟨w.held, w.queue, w.channels, w.inQueueThread⟩

theorem keeps_surroundings (w : World σ) (p : PipelineId) :
    w.surroundings.keeps p = w.isKept p := by
  have hkept : (fun x => w.pipelineKept x == p) = fun
      | .pipeline q => q == p
      | .channel ch => ((w.channels[ch]?).getD default).pipeline == p := by
    funext x
    cases x <;> rfl
  rw [isKept, hkept]
  rfl

/-- Two worlds are the same but for their surroundings, the loops of the far world, and the
    promises that have only been made there. No promise has a listener, and in the near world all
    pipelines are on the inline loop. -/
structure Likeness (extra : List Promise) (u v : World σ) : Prop where
  contexts : v.contexts = u.contexts
  pipelines : v.pipelines.map Pipeline.unbound = u.pipelines.map Pipeline.unbound
  transports : v.transports = u.transports
  woken : v.woken = u.woken
  annals : v.annals = u.annals
  user : v.user = u.user
  promises : v.promises = u.promises ++ extra
  untold : ∀ x ∈ u.promises, x.listeners = []
  inline : ∀ p, u.loopOf p = .inline

/-- Two worlds are the same in a setting. -/
structure Counterpart (s : Setting) (u v : World σ) : Prop extends Likeness s.extra u v where
  near : u.surroundings = s.near
  far : v.surroundings = s.far
  lent : ∀ p, v.loopOf p = s.loop p
  made : u.promises.length = s.made

namespace Counterpart

variable (h : Counterpart s u v)
include h

/-! ### What is seen -/

theorem context (c : ContextId) : v.context c = u.context c := by
  rw [World.context, World.context, h.contexts]

theorem transport (t : TransportId) : v.transport t = u.transport t := by
  rw [World.transport, World.transport, h.transports]

/-- Pipelines agree in all but the loop that they are lent. -/
theorem pipeline {β : Type} {f : Pipeline → β} (hf : ∀ x, f x.unbound = f x) (p : PipelineId) :
    f (v.pipeline p) = f (u.pipeline p) :=
  getD_congr hf h.pipelines p default

theorem chain (p : PipelineId) : v.chain p = u.chain p :=
  h.pipeline (f := Pipeline.chain) (fun _ => rfl) p

theorem activation (p : PipelineId) :
    (v.pipeline p).activation = (u.pipeline p).activation :=
  h.pipeline (f := Pipeline.activation) (fun _ => rfl) p

theorem sinkOf (p : PipelineId) : v.sinkOf p = u.sinkOf p := by
  have hsink : ∀ w : World σ,
      w.sinkOf p = (w.pipeline p).attachment.elim .discarding Attachment.sink := by
    intro w
    rw [World.sinkOf]
    cases (w.pipeline p).attachment <;> rfl
  rw [hsink, hsink]
  refine h.pipeline (f := fun x => x.attachment.elim .discarding Attachment.sink) (fun x => ?_) p
  rw [Pipeline.unbound]
  cases x.attachment <;> rfl

theorem container (place : Place) : v.container place = u.container place := by
  cases place with
  | inbound c => exact congrArg Context.inbound (h.context c)
  | outbound c => exact congrArg Context.outbound (h.context c)
  | tail p => exact h.pipeline (f := Pipeline.tailBuffer) (fun _ => rfl) p
  | sink p => exact h.pipeline (f := Pipeline.sinkBuffer) (fun _ => rfl) p
  | nowhere => rfl

theorem isKept (p : PipelineId) : v.isKept p = u.isKept p := by
  rw [← keeps_surroundings, ← keeps_surroundings, h.near, h.far, s.kept]

theorem inboundTarget (p : PipelineId) (cursor : Cursor) :
    v.inboundTarget p cursor = u.inboundTarget p cursor := by
  rw [World.inboundTarget, World.inboundTarget, h.chain]

theorem outboundTarget (p : PipelineId) (cursor : Cursor) :
    v.outboundTarget p cursor = u.outboundTarget p cursor := by
  rw [World.outboundTarget, World.outboundTarget, h.chain]

theorem hasPipeline (c : ContextId) : v.hasPipeline c = u.hasPipeline c := by
  rw [World.hasPipeline, World.hasPipeline, h.context, h.isKept]

theorem nextInbound (c : ContextId) : v.nextInbound c = u.nextInbound c := by
  rw [World.nextInbound, World.nextInbound, h.hasPipeline, h.context, h.inboundTarget]

theorem nextOutbound (c : ContextId) : v.nextOutbound c = u.nextOutbound c := by
  rw [World.nextOutbound, World.nextOutbound, h.hasPipeline, h.context, h.outboundTarget]

theorem refusal (c : ContextId) : v.refusal c = u.refusal c := by
  rw [World.refusal, World.refusal, h.context, h.hasPipeline]

/-- A promise that is due. -/
theorem promise {f : PromiseId} (hf : f < s.made) : v.promise f = u.promise f := by
  rw [World.promise, World.promise, h.promises, List.getElem?_append_left (h.made ▸ hf)]

theorem listeners {f : PromiseId} (hf : f < s.made) : (u.promise f).listeners = [] := by
  have hf : f < u.promises.length := h.made ▸ hf
  rw [World.promise, List.getElem?_eq_getElem hf]
  exact h.untold _ (List.getElem_mem hf)

/-- Work is done at once in both worlds. -/
theorem inLoop (p : PipelineId) :
    u.inLoop (u.loopOf p) = true ∧ v.inLoop (v.loopOf p) = true := by
  have hthread : v.inQueueThread = true :=
    (congrArg Surroundings.inQueueThread h.far).trans s.inTurn
  constructor
  · rw [h.inline]
    rfl
  · cases v.loopOf p with
    | inline => rfl
    | queued => exact hthread

/-! ### What is changed -/

theorem updateContext (c : ContextId) (f : Context → Context) :
    Counterpart s (u.updateContext c f) (v.updateContext c f) :=
  { h with contexts := congrArg (·.modify c f) h.contexts }

theorem updatePipeline (p : PipelineId) {f : Pipeline → Pipeline}
    (hf : ∀ x, (f x).unbound = f x.unbound) (hattachment : ∀ x, (f x).attachment = x.attachment) :
    Counterpart s (u.updatePipeline p f) (v.updatePipeline p f) := by
  have hloop : ∀ (w : World σ) (q : PipelineId), (w.updatePipeline p f).loopOf q = w.loopOf q := by
    intro w q
    rw [loopOf, pipeline_updatePipeline (g := Pipeline.attachment) hattachment w p q, loopOf]
  exact { h with
    pipelines := by
      rw [World.updatePipeline, World.updatePipeline, map_modify_of_commute hf,
        map_modify_of_commute hf, h.pipelines]
    inline := fun q => (hloop u q).trans (h.inline q)
    lent := fun q => (hloop v q).trans (h.lent q) }

theorem updateTransport (t : TransportId) (f : Transport → Transport) :
    Counterpart s (u.updateTransport t f) (v.updateTransport t f) :=
  { h with transports := congrArg (·.modify t f) h.transports }

theorem setContainer (place : Place) (x : Container) :
    Counterpart s (u.setContainer place x) (v.setContainer place x) := by
  cases place with
  | inbound c => exact h.updateContext c _
  | outbound c => exact h.updateContext c _
  | tail p => exact h.updatePipeline p (fun _ => rfl) fun _ => rfl
  | sink p => exact h.updatePipeline p (fun _ => rfl) fun _ => rfl
  | nowhere => exact h

theorem updateContainer (place : Place) (f : Container → Container) :
    Counterpart s (u.updateContainer place f) (v.updateContainer place f) := by
  rw [World.updateContainer, World.updateContainer, h.container]
  exact h.setContainer place _

theorem moveAll (source target : Place) :
    Counterpart s (u.moveAll source target) (v.moveAll source target) := by
  rw [World.moveAll, World.moveAll, h.container, h.container]
  exact (h.setContainer source _).setContainer target _

theorem updateActivation (p : PipelineId) (f : Activation → Activation) :
    Counterpart s (u.updateActivation p f) (v.updateActivation p f) :=
  h.updatePipeline p (fun _ => rfl) fun _ => rfl

theorem setUser (f : σ → σ) :
    Counterpart s { u with user := f u.user } { v with user := f v.user } :=
  { h with user := congrArg f h.user }

theorem notice [Journal σ] (n : Notice) : Counterpart s (u.notice n) (v.notice n) :=
  h.setUser _

theorem mark (p : PipelineId) (m : Mark) : Counterpart s (u.mark p m) (v.mark p m) :=
  { h with annals := congrArg (· ++ [(p, m)]) h.annals }

theorem hold (p : PipelineId) :
    Counterpart (s.hold p) (u.hold (.pipeline p)) (v.hold (.pipeline p)) :=
  { h with
    near := congrArg (Surroundings.hold · (.pipeline p)) h.near
    far := congrArg (Surroundings.hold · (.pipeline p)) h.far }

omit h in
theorem release {p : PipelineId} (h : Counterpart (s.hold p) u v) :
    Counterpart s (u.release (.pipeline p)) (v.release (.pipeline p)) := by
  have hrelease : ∀ (w : World σ) (x : Surroundings),
      w.surroundings = x.hold (.pipeline p) → (w.release (.pipeline p)).surroundings = x := by
    intro w x hw
    have hheld : w.held = .pipeline p :: x.held := congrArg Surroundings.held hw
    have hrest : (w.queue, w.channels, w.inQueueThread) = (x.queue, x.channels, x.inQueueThread) :=
      congrArg (fun y : Surroundings => (y.queue, y.channels, y.inQueueThread)) hw
    simp only [Prod.mk.injEq] at hrest
    rw [World.release, surroundings, hheld, List.erase_cons_head, hrest.1, hrest.2.1, hrest.2.2]
  exact { h with near := hrelease u s.near h.near, far := hrelease v s.far h.far }

/-- A promise that is due is settled. -/
theorem setPromise {f : PromiseId} (hf : f < s.made) {x : Promise} (hx : x.listeners = []) :
    Counterpart s (u.setPromise f x) (v.setPromise f x) :=
  { h with
    promises := by
      rw [World.setPromise, World.setPromise, h.promises, List.set_append_left _ _ (h.made ▸ hf)]
    made := (List.length_set ..).trans h.made
    untold := fun y hy => (List.mem_or_eq_of_mem_set hy).elim (h.untold y) fun hy => hy ▸ hx }

end Counterpart

end World

end Conduit
