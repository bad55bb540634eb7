import Conduit.Proofs.Buffer.Held
import Conduit.Proofs.Codec.Watch
import Conduit.Proofs.World.Housing

/-!
# Watching a Collector

The collector of an embedded transport keeps all that comes to it, so what it has
received can be read off the transport, message by message. The same goes for the
failures that it was told of, which come wrapped with the name of the handler that
failed.

Not every handler before a collector hands on what it was given as it is. `Collecting`
and `Gathered` are therefore about a collector anywhere in a pipeline, and about what
comes to it from any member that it is the next one for. The watch at the end is the
simplest case, where that member is the head.

## Main definitions

* `World.Collecting`: A pipeline with a collector in it.
* `World.Gathered`: What has come to a collector.
* `Error.unwrapped`: A failure without the name of the handler.
* `Watch.transport`: What is seen of a collector.
* `Watch.collector`: A collector right behind the head.

## Theorems

* `Collecting.handles`: A collector hears of every inbound event.
* `Collecting.updateContext`, `Collecting.updateActivation`, `Collecting.notice`,
  `Collecting.mark`, `Collecting.hold`: Changes that do not concern a collector.
* `container_ownChange`: What a handler changes of its own.
* `Gathered.refl`, `Gathered.release`: Nothing has come.
* `Gathered.container`: What waits elsewhere is not touched.
* `gathered_deliver`: What waits for a collector comes to its transport.
* `Collecting.passOn`, `Collecting.handOn`: Messages come to a collector.
* `Collecting.passEvent`, `Collecting.report`: An event comes to it, or a failure.
* `Gathered.step`: All that comes to a collector is seen.
* `Collecting.ne_head`, `Collecting.targets_head`: A collector right behind the head.
* `collector_faithful`: A collector goes along with the handler before it.
-/

namespace Conduit

namespace World

variable {σ : Type} {w w' w'' : World σ} {p : PipelineId} {l xs : Roster} {m x : Member}
  {t : TransportId} {msgs more : List Message} {causes others : List Error}

/-- There is a collector in a pipeline, and no bytes wait for it or have come to it. -/
structure Collecting (w : World σ) (p : PipelineId) (l : Roster) (x : Member)
    (t : TransportId) : Prop where
  hosts : w.Hosts p l
  ready : w.Ready p
  mem : x ∈ l
  handler : (w.context x.id).handler = .collector t
  wired : t < w.transports.length
  waiting : (w.context x.id).inbound.Holds [] []
  kept : (w.transport t).inbound.bytes.Holds []

/-- Some messages and some failures have come to a collector, and nothing else was done but to
    its own context and its transport. -/
structure Gathered (w w' : World σ) (p : PipelineId) (l : Roster) (x : Member) (t : TransportId)
    (msgs : List Message) (causes : List Error) : Prop where
  collecting : w'.Collecting p l x t
  messages : (w'.transport t).inbound.messages = (w.transport t).inbound.messages ++ msgs
  exceptions : (w'.transport t).exceptions = (w.transport t).exceptions ++ causes
  outbound : (w'.transport t).outbound = (w.transport t).outbound
  context : ∀ c, c ≠ x.id → w'.context c = w.context c
  own : (w'.context x.id).outbound = (w.context x.id).outbound
  same : ∃ contexts transports, w' = { w with contexts, transports }

theorem Collecting.handles (h : w.Collecting p l x t) (kind : EventKind)
    (hkind : kind.isInbound = true) : x.events.handles kind = true := by
  rw [h.hosts.handles_collector h.mem h.handler, hkind]

/-! ### What a collector has no part in -/

theorem Collecting.updateContext (h : w.Collecting p l x t) {c : ContextId} (hc : c ≠ x.id)
    {f : Context → Context} (hf : Context.OwnChange f) :
    (w.updateContext c f).Collecting p l x t where
  hosts := by
    refine h.hosts.updateContext (fun y => ?_) c
    -- A handler changes what waits for it inbound and its own role, and nothing else.
    rcases hf y with ⟨inbound, role, hy⟩
    rw [hy]
    exact ⟨rfl, rfl, rfl, rfl⟩
  ready := h.ready.congr rfl rfl h.ready.kept
  mem := h.mem
  handler := by
    rw [context_updateContext_ne hc]
    exact h.handler
  wired := h.wired
  waiting := by
    rw [context_updateContext_ne hc]
    exact h.waiting
  kept := h.kept

theorem Collecting.updateActivation (h : w.Collecting p l x t) (f : Activation → Activation) :
    (w.updateActivation p f).Collecting p l x t where
  hosts := h.hosts.congr (chain_updateActivation w p p f) rfl
  ready := h.ready.congr (loopOf_updateActivation w p p f) rfl h.ready.kept
  mem := h.mem
  handler := h.handler
  wired := h.wired
  waiting := h.waiting
  kept := h.kept

theorem Collecting.notice [Journal σ] (h : w.Collecting p l x t) (n : Notice) :
    (w.notice n).Collecting p l x t :=
  ⟨h.hosts.congr rfl rfl, h.ready.congr rfl rfl h.ready.kept, h.mem, h.handler, h.wired,
    h.waiting, h.kept⟩

theorem Collecting.mark (h : w.Collecting p l x t) (q : PipelineId) (n : Mark) :
    (w.mark q n).Collecting p l x t :=
  ⟨h.hosts.congr rfl rfl, h.ready.congr rfl rfl h.ready.kept, h.mem, h.handler, h.wired,
    h.waiting, h.kept⟩

theorem Collecting.hold (h : w.Collecting p l x t) : (w.hold (.pipeline p)).Collecting p l x t :=
  ⟨h.hosts.congr rfl rfl, h.ready.congr rfl rfl (isKept_hold w p), h.mem, h.handler, h.wired,
    h.waiting, h.kept⟩

/-- Of what a handler changes of its own, only its inbound container is a container. -/
theorem container_ownChange {f : Context → Context} (hf : Context.OwnChange f) {c : ContextId}
    {place : Place} (hne : place ≠ .inbound c) :
    (w.updateContext c f).container place = w.container place := by
  cases place with
  | inbound d =>
      have hcd : c ≠ d := fun he => hne (congrArg Place.inbound he.symm)
      exact congrArg Context.inbound (context_updateContext_ne hcd f)
  | outbound d =>
      refine context_updateContext (g := Context.outbound) (fun y => ?_) w c d
      rcases hf y with ⟨inbound, role, hy⟩
      rw [hy]
  | tail q | sink q | nowhere => rfl

/-! ### What comes to a collector -/

theorem Gathered.refl (h : w.Collecting p l x t) : w.Gathered w p l x t [] [] :=
  ⟨h, (List.append_nil _).symm, (List.append_nil _).symm, rfl, fun _ _ => rfl, rfl, _, _, rfl⟩

/-- What was held in the meantime does not matter. -/
theorem Gathered.release (h : (w.hold (.pipeline p)).Gathered w' p l x t msgs causes)
    (hready : w.Ready p) : w.Gathered (w'.release (.pipeline p)) p l x t msgs causes := by
  rcases h.same with ⟨contexts, transports, hsame⟩
  have hrelease : w'.release (.pipeline p) = { w with contexts, transports } := by
    rw [hsame, hold, World.release, List.erase_cons_head]
  have hc := h.collecting
  refine ⟨⟨hc.hosts.congr rfl rfl, ?_, hc.mem, hc.handler, hc.wired, hc.waiting, hc.kept⟩,
    h.messages, h.exceptions, h.outbound, h.context, h.own, contexts, transports, hrelease⟩
  rw [hrelease]
  exact hready.congr rfl rfl hready.kept

/-- What waits elsewhere is not touched. -/
theorem Gathered.container (h : w.Gathered w' p l x t msgs causes) {place : Place}
    (hne : place ≠ .inbound x.id) : w'.container place = w.container place := by
  rcases h.same with ⟨contexts, transports, hsame⟩
  cases place with
  | inbound c =>
      have hc : c ≠ x.id := fun he => hne (congrArg Place.inbound he)
      exact congrArg Context.inbound (h.context c hc)
  | outbound c =>
      by_cases hc : c = x.id
      · rw [hc]
        exact h.own
      · exact congrArg Context.outbound (h.context c hc)
  | tail q | sink q | nowhere =>
      rw [hsame]
      rfl

/-- What waits for a collector comes to its transport. -/
theorem gathered_deliver (hhosts : w.Hosts p l) (hready : w.Ready p) (hmem : x ∈ l)
    (hhandler : (w.context x.id).handler = .collector t) (hwired : t < w.transports.length)
    (hwaiting : (w.context x.id).inbound.Holds [] msgs)
    (hkept : (w.transport t).inbound.bytes.Holds []) :
    w.Gathered (w.deliver (.inbound x.id) t .inbound) p l x t msgs [] := by
  -- There are only messages to move, so there is room for everything.
  have hinbound : (w.transport t).inbound.Holds [] (w.transport t).inbound.messages := ⟨hkept, rfl⟩
  rcases hwaiting.transferTo hinbound (Nat.zero_le _) with ⟨left, filled, htransfer, hleft, hfilled⟩
  obtain ⟨w', hw'⟩ : ∃ w', w' = (w.setContainer (.inbound x.id) left).updateTransport t
      (·.keep .inbound filled) := ⟨_, rfl⟩
  have hdeliver : w.deliver (.inbound x.id) t .inbound = w' := by
    have hmove : (w.container (.inbound x.id)).transferTo ((w.transport t).kept .inbound) =
        (left, filled) := htransfer
    rw [deliver, hmove, hw']
  have hcontext : w'.context x.id = { w.context x.id with inbound := left } := by
    rw [hw']
    exact context_updateContext_self (hhosts.known x hmem) _
  have htransport : w'.transport t = { w.transport t with inbound := filled } := by
    rw [hw']
    exact transport_updateTransport hwired _
  rw [hdeliver]
  refine ⟨⟨?_, ?_, hmem, ?_, ?_, ?_, ?_⟩, ?_, ?_, ?_, ?_, ?_, ?_⟩
  · rw [hw']
    exact (hhosts.setContainer (.inbound x.id) left).congr rfl rfl
  · rw [hw']
    exact hready.congr rfl rfl hready.kept
  · rw [hcontext]
    exact hhandler
  · rw [hw', length_updateTransport]
    exact hwired
  · rw [hcontext]
    exact hleft
  · rw [htransport]
    exact hfilled.bytes
  · rw [htransport]
    exact hfilled.messages
  · rw [htransport, List.append_nil]
  · rw [htransport]
  · intro c hc
    rw [hw']
    exact context_updateContext_ne hc.symm _
  · rw [hcontext]
  · exact ⟨_, _, hw'⟩

variable [Journal σ] {a : Member} (h : w.Collecting p l x t) (ha : a ∈ l)
  (user : Caller σ → Caller σ) (depth : Nat)
include h ha

/-- Messages come to a collector from the member before it. -/
theorem Collecting.passOn (hsome : l.targets (.after a.id) .messageUpdated = x :: xs)
    (msgs : List Message) :
    let w' := (w.updateContainer (w.nextInbound a.id) (·.pushAll msgs)).fireFrom
      (respond user (depth + 1)) a.id .messageUpdated
    w.Gathered w' p l x t msgs [] := by
  intro w'
  obtain ⟨w₁, hw₁⟩ : ∃ w₁, w₁ = w.updateContainer (.inbound x.id) (·.pushAll msgs) := ⟨_, rfl⟩
  have hcontext : w₁.context x.id = { w.context x.id with
      inbound := (w.context x.id).inbound.pushAll msgs } := by
    rw [hw₁]
    exact context_updateContext_self (h.hosts.known x h.mem) _
  have hhosts : w₁.Hosts p l := by
    rw [hw₁]
    exact h.hosts.setContainer _ _
  have hready : w₁.Ready p := by
    rw [hw₁]
    exact h.ready.setContainer _ _
  have hhandler : (w₁.context x.id).handler = .collector t := by
    rw [hcontext]
    exact h.handler
  have hfire : w' = w₁.deliver (.inbound x.id) t .inbound := by
    change (w.updateContainer (w.nextInbound a.id) _).fireFrom _ _ _ = _
    rw [h.hosts.nextInbound_some h.ready ha hsome, ← hw₁,
      hhosts.fireFrom_collector hready ha .messageUpdated hsome hhandler]
    rfl
  have hwaiting : (w₁.context x.id).inbound.Holds [] msgs := by
    rw [hcontext]
    exact h.waiting.pushAll msgs
  have hgathered : w₁.Gathered w' p l x t msgs [] := by
    rw [hfire]
    refine gathered_deliver hhosts hready h.mem hhandler ?_ hwaiting ?_
    · rw [hw₁]
      exact h.wired
    · rw [hw₁]
      exact h.kept
  -- The messages that waited in between are the only trace of the first step.
  refine ⟨hgathered.collecting, ?_, ?_, ?_, ?_, ?_, ?_⟩
  · rw [hgathered.messages, hw₁]
    rfl
  · rw [hgathered.exceptions, hw₁]
    rfl
  · rw [hgathered.outbound, hw₁]
    rfl
  · intro c hc
    rw [hgathered.context c hc, hw₁]
    exact context_updateContext_ne hc.symm _
  · rw [hgathered.own, hcontext]
  · rcases hgathered.same with ⟨contexts, transports, hsame⟩
    rw [hw₁] at hsame
    exact ⟨contexts, transports, hsame⟩

theorem Collecting.handOn (hsome : l.targets (.after a.id) .messageUpdated = x :: xs)
    (msgs : List Message) :
    w.Gathered (w.handOn (respond user (depth + 1)) a.id msgs) p l x t msgs [] := by
  rw [World.handOn]
  cases msgs with
  | nil => exact Gathered.refl h
  | cons msg msgs => exact h.passOn ha user depth hsome (msg :: msgs)

/-- That the channel has gone inactive is of no consequence for a collector. -/
theorem Collecting.passEvent (hsome : l.targets (.after a.id) .channelInactive = x :: xs) :
    w.fireFrom (respond user (depth + 1)) a.id .channelInactive = w := by
  rw [h.hosts.fireFrom_collector h.ready ha .channelInactive hsome h.handler]
  rfl

omit ha in
/-- A failure of a member that does not hear of it comes to a collector. -/
theorem Collecting.report (hsome : l.targets (.at a.id) .exceptionCaught = x :: xs)
    (kind : EventKind) (cause : Error) :
    let w' := w.reportFailure (respond user (depth + 1)) p a.id kind cause
    w.Gathered w' p l x t [] [.handler kind (w.context a.id).name cause] := by
  intro w'
  -- The failure is named, so that the pipeline is not searched for what is within it.
  obtain ⟨error, herror⟩ : ∃ error : Error, error = .handler kind (w.context a.id).name cause :=
    ⟨_, rfl⟩
  have hraise : w' = w.updateTransport t
      fun y => { y with exceptions := y.exceptions ++ [error] } := by
    change w.fireNow _ p (.at a.id) (.exceptionCaught (.handler kind _ cause)) = _
    rw [← herror, h.hosts.fireNow_collector hsome h.handler]
    rfl
  have htransport : w'.transport t = { w.transport t with
      exceptions := (w.transport t).exceptions ++ [error] } := by
    rw [hraise]
    exact transport_updateTransport h.wired _
  rw [← herror]
  refine ⟨⟨?_, ?_, h.mem, ?_, ?_, ?_, ?_⟩, ?_, ?_, ?_, ?_, ?_, ?_⟩
  · rw [hraise]
    exact h.hosts.congr rfl rfl
  · rw [hraise]
    exact h.ready.congr rfl rfl h.ready.kept
  · rw [hraise]
    exact h.handler
  · rw [hraise, length_updateTransport]
    exact h.wired
  · rw [hraise]
    exact h.waiting
  · rw [htransport]
    exact h.kept
  · rw [htransport, List.append_nil]
  · rw [htransport]
  · rw [htransport]
  · intro c _
    rw [hraise]
    rfl
  · rw [hraise]
    rfl
  · exact ⟨_, _, hraise⟩

end World

/-! ### A collector behind the head -/

/-- The failure of a handler, without the handler. -/
def Error.unwrapped : Error → Error
  | .handler _ _ cause => cause
  | error => error

/-- What is seen of the collector of a transport: the messages and failures that it keeps. -/
def Watch.transport {σ : Type} (t : TransportId) (calm : World σ → Prop) (proper : Message → Prop)
    (reading : Message → List Message) : Watch σ Message where
  calm
  received w := (w.transport t).inbound.messages
  raised w := (w.transport t).exceptions.map Error.unwrapped
  proper
  reading

/-- The watch over a collector that is next to the head. It receives all messages. -/
def Watch.collector (σ : Type) (p : PipelineId) (m x : Member) (t : TransportId) :
    Watch σ Message :=
  .transport t (fun w => w.Collecting p [m, x] x t) (fun _ => True) fun msg => [msg]

namespace World

variable {σ : Type} {w w' : World σ} {p : PipelineId} {l : Roster} {m x : Member}
  {t : TransportId} {msgs : List Message} {causes : List Error}

/-- All that comes to a collector is seen. -/
theorem Gathered.step (h : w.Gathered w' p l x t msgs causes) {calm : World σ → Prop}
    (hcalm : calm w') (proper : Message → Prop) (reading : Message → List Message) :
    (Watch.transport t calm proper reading).Step p w w' msgs (causes.map Error.unwrapped) where
  calm := hcalm
  received := h.messages
  raised := by
    change (w'.transport t).exceptions.map Error.unwrapped = _
    rw [h.exceptions, List.map_append]
    rfl
  activation := by
    rcases h.same with ⟨contexts, transports, hsame⟩
    rw [hsame]
    rfl

theorem Collecting.ne_head (h : w.Collecting p [m, x] x t) : m.id ≠ x.id := by
  have hnodup := h.hosts.holds.linked.ids_nodup
  intro hsame
  simp [hsame] at hnodup

/-- Past the head there is only the collector. -/
theorem Collecting.targets_head (h : w.Collecting p [m, x] x t) {kind : EventKind}
    (hkind : kind.isInbound = true) : Roster.targets [m, x] (.after m.id) kind = [x] := by
  have hx := h.handles kind hkind
  simp [Roster.targets, Roster.ahead, hx]

/-- A collector goes along with the handler before it. -/
theorem collector_faithful [Journal σ] (user : Caller σ → Caller σ) (depth : Nat)
    (hm : m.events.handles .exceptionCaught = false) :
    (Watch.collector σ p m x t).Faithful user (depth + 1) p m [x] where
  hosts h := h.hosts
  ready h := h.ready
  own := by
    intro w f h hf
    have hh : w.Collecting p [m, x] x t := h
    exact ⟨hh.updateContext hh.ne_head hf, (List.append_nil _).symm, (List.append_nil _).symm, rfl⟩
  notice := by
    intro w n h
    exact ⟨Collecting.notice h n, (List.append_nil _).symm, (List.append_nil _).symm, rfl⟩
  mark := by
    intro w q n h
    exact ⟨Collecting.mark h q n, (List.append_nil _).symm, (List.append_nil _).symm, rfl⟩
  retire := by
    intro w h
    exact ⟨Collecting.updateActivation h _, rfl, rfl⟩
  announce := by
    intro w msgs h _
    have hh : w.Collecting p [m, x] x t := h
    -- The messages come to the container of the collector, and from there to the transport.
    have hgathered := hh.passOn List.mem_cons_self user depth (hh.targets_head rfl) msgs
    have hreading : msgs.flatMap (Watch.collector σ p m x t).reading = msgs :=
      List.flatMap_singleton' msgs
    rw [hreading]
    exact ⟨hgathered.step hgathered.collecting _ _, hgathered.context m.id hh.ne_head⟩
  ended := by
    intro w h
    have hh : w.Collecting p [m, x] x t := h
    rw [hh.passEvent List.mem_cons_self user depth (hh.targets_head rfl)]
    exact ⟨Watch.Step.refl h, rfl⟩
  report := by
    intro w kind cause h
    have hh : w.Collecting p [m, x] x t := h
    have hx := hh.handles .exceptionCaught rfl
    -- The handler does not ask for reports, so the collector is the first to get one.
    have htargets : Roster.targets [m, x] (.at m.id) .exceptionCaught = [x] := by
      simp [Roster.targets, Roster.ahead, hx, hm]
    have hgathered := hh.report user (depth + 1) htargets kind cause
    exact ⟨hgathered.step hgathered.collecting _ _, hgathered.context m.id hh.ne_head⟩

end World

end Conduit
