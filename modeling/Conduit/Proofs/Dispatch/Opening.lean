import Conduit.Proofs.Dispatch.Conveyance
import Conduit.Proofs.World.Replacement

/-!
# Opening a Channel

How a pipeline gets between the two ends of a transport. An embedded channel puts its
collector behind the last handler, attaches the pipeline to itself, and reports that it
is open and then that it is active. The collector does not object to being added, and
what the other handlers make of the two reports is no concern of the data: however far
they get, and whoever fails over them, the channel is active in the end and the transport
has nothing yet.

## Main definitions

* `World.Idle`: A pipeline before that.
* `World.collectorMember`: The collector, as a member.

## Theorems

* `callHook_collector`, `add_collector`: The collector is added.
* `Idle.poised`: An idle pipeline with its collector.
* `row_empty`: A row in which nothing waits.
* `pipeline_lent`, `loopOf_lent`, `isKept_lent`, `channel_newChannel`, `attach_newChannel`,
  `openEmbedded_lent`: A pipeline that is attached to a new channel.
* `pipeline_attached`, `Poised.attached`: The pipeline is attached.
* `Conveying.updateActivation`, `activation_updateActivation`, `start_conveyed`: What a pulse
  does to it.
* `fire_open`, `fire_active`: The channel comes to life.
* `openEmbedded_conveying`: All of it.
-/

namespace Conduit

open Roster

namespace World

variable {σ : Type} {w w' : World σ} {p : PipelineId} {l : Roster} {x : Member}
  {t : TransportId} {load : Side → Load}

/-- A pipeline of plain handlers that is not attached, and where no data waits. -/
structure Idle (w : World σ) (p : PipelineId) (l : Roster) : Prop where
  hosts : w.Hosts p l
  known : p < w.pipelines.length
  plain : ∀ m ∈ l, (w.context m.id).handler.IsPlain
  free : Handler.collectorName ∉ names l
  unattached : (w.pipeline p).attachment = none
  asleep : (w.pipeline p).activation = {}
  empty : ∀ m ∈ l, ∀ side : Side, (side.waiting (w.context m.id)).Holds [] []
  passing : (w.pipeline p).sinkBuffer.Holds [] []

/-- A pipeline with a collector behind all others that is not attached yet. No data waits in it,
    and the transport of the collector has none. -/
structure Poised (w : World σ) (p : PipelineId) (l : Roster) (x : Member) (t : TransportId) :
    Prop where
  hosts : w.Hosts p (l ++ [x])
  known : p < w.pipelines.length
  plain : ∀ m ∈ l, (w.context m.id).handler.IsPlain
  collector : (w.context x.id).handler = .collector t
  wired : t < w.transports.length
  unattached : (w.pipeline p).attachment = none
  asleep : (w.pipeline p).activation = {}
  empty : ∀ m ∈ l ++ [x], ∀ side : Side, (side.waiting (w.context m.id)).Holds [] []
  passing : (w.pipeline p).sinkBuffer.Holds [] []
  kept : ∀ side : Side, ((w.transport t).kept side).Holds [] []

/-- The member that a collector is going to be. -/
def collectorMember (w : World σ) : Member := ⟨w.contexts.length, Handler.collectorName, .inbound⟩

/-! ### Adding the collector -/

section Adding

variable [Journal σ]

/-- A collector has no objections. -/
theorem callHook_collector {c : ContextId} (h : (w.context c).handler = .collector t)
    (user : Caller σ → Caller σ) (depth : Nat) (hook : Hook) :
    w.callHook (respond user (depth + 1)) c hook = (.ok (), w) := by
  rw [callHook, respond, answer, handlerCalled, h]
  rfl

/-- A collector is added behind the last handler. -/
theorem add_collector (h : w.Hosts p l) (hp : p < w.pipelines.length)
    (hfree : Handler.collectorName ∉ names l) (t : TransportId) (user : Caller σ → Caller σ)
    (depth : Nat) :
    ∃ chain,
      w.add (respond user (depth + 1)) p .last Handler.collectorName (.collector t) =
        (.ok (), (w.newContext p Handler.collectorName (.collector t)).2.setChain p chain) ∧
      ((w.newContext p Handler.collectorName (.collector t)).2.setChain p chain).Hosts p
        (l ++ [w.collectorMember]) := by
  obtain ⟨n, hn⟩ : ∃ n, n = (w.newContext p Handler.collectorName (.collector t)).2 := ⟨_, rfl⟩
  have hl : w.Hosts p (l ++ []) := by rwa [List.append_nil]
  have hfree : Handler.collectorName ∉ names (l ++ []) := by rwa [List.append_nil]
  have hslot : slot (l ++ []) .last = .ok l.length := by rw [List.append_nil]; rfl
  have hnew : n.context w.contexts.length =
      { pipeline := p, name := Handler.collectorName, handler := .collector t } := by
    rw [hn]
    exact context_length_newContext w p _ _
  have hhosts : n.Hosts p (l ++ []) := hn ▸ hl.newContext p _ _
  -- The collector is a new context with a name that is free, so the chain takes it.
  have hloose : n.Loose p (l ++ []) w.contexts.length := hn ▸ loose_newContext hl _ _
  have hname : (n.context w.contexts.length).name ∉ names (l ++ []) := by rwa [hnew]
  have hp' : p < n.pipelines.length := hn ▸ hp
  rcases insert_slot hhosts hp' hloose hname hslot with ⟨chain, hinsert, hsettled⟩
  have hmember : n.member w.contexts.length = w.collectorMember := by
    rw [member, hnew]
    rfl
  have hcheck : w.checkAdd p .last Handler.collectorName (.collector t) = .ok () := by
    have hnamed : checkName Handler.collectorName = .ok () := if_neg (by decide)
    have hasks : (EventSet.inbound.isInbound || EventSet.inbound.isOutbound) = true := by decide
    have hevents : checkEvents (.collector t) = .ok () := if_pos hasks
    rw [checkAdd, hnamed, checkInsert_slot hl hfree hslot, hevents]
    rfl
  have hchecked := checkInsert_slot hhosts hname hslot
  have hhandler : (n.context w.contexts.length).handler = .collector t :=
    congrArg Context.handler hnew
  have hhandler' : ((n.setChain p chain).context w.contexts.length).handler = .collector t :=
    hhandler
  rw [← hn]
  refine ⟨chain, ?_, ?_⟩
  · have hadd : w.add (respond user (depth + 1)) p .last Handler.collectorName (.collector t) =
        n.addContext (respond user (depth + 1)) p .last w.contexts.length := by
      rw [add, hcheck, hn]
      rfl
    rw [hadd, addContext, hchecked]
    dsimp only
    rw [callHook_collector hhandler]
    dsimp only
    rw [hinsert]
    dsimp only
    rw [callHook_collector hhandler']
  · have hjoined := hsettled.hosts
    rw [hmember] at hjoined
    exact hjoined

/-- Once a collector for a new transport is added, an idle pipeline is poised. -/
theorem Idle.poised (h : w.Idle p l) (user : Caller σ → Caller σ) (depth : Nat) :
    ∃ w₁, w.newTransport.2.add (respond user (depth + 1)) p .last Handler.collectorName
        (.collector w.transports.length) = (.ok (), w₁) ∧
      w₁.Poised p l w.collectorMember w.transports.length := by
  obtain ⟨t, ht⟩ : ∃ t, t = w.transports.length := ⟨_, rfl⟩
  obtain ⟨w₀, hw₀⟩ : ∃ w₀, w₀ = w.newTransport.2 := ⟨_, rfl⟩
  have hhosts₀ : w₀.Hosts p l := hw₀ ▸ h.hosts.congr rfl rfl
  have hp₀ : p < w₀.pipelines.length := hw₀ ▸ h.known
  rcases add_collector hhosts₀ hp₀ h.free t user depth with ⟨chain, hadd, hhosts⟩
  rw [← ht, ← hw₀]
  refine ⟨_, hadd, ?_⟩
  obtain ⟨w₁, hw₁⟩ : ∃ w₁, w₁ =
      (w₀.newContext p Handler.collectorName (.collector t)).2.setChain p chain := ⟨_, rfl⟩
  rw [← hw₁] at hhosts ⊢
  rw [hw₀] at hw₁
  have hpipeline : w₁.pipeline p = { w.pipeline p with chain := chain } :=
    hw₁ ▸ pipeline_updatePipeline_self h.known _
  have hcontext : ∀ m ∈ l, w₁.context m.id = w.context m.id := fun m hm =>
    hw₁ ▸ context_newContext (w := w.newTransport.2) (h.hosts.known m hm) p _ _
  have hcollector : w₁.context w.collectorMember.id =
      { pipeline := p, name := Handler.collectorName, handler := .collector t } :=
    hw₁ ▸ context_length_newContext w.newTransport.2 p _ _
  have htransports : w₁.transports = w.transports ++ [({} : Transport)] := hw₁ ▸ rfl
  have htransport : w₁.transport t = {} := by
    rw [transport, htransports, ht, List.getElem?_append_right (Nat.le_refl _), Nat.sub_self]
    rfl
  exact {
    hosts := by
      rw [hw₀] at hhosts
      exact hhosts
    known := by
      rw [hw₁, setChain, updatePipeline, List.length_modify]
      exact h.known
    plain := fun m hm => by
      rw [hcontext m hm]
      exact h.plain m hm
    collector := congrArg Context.handler hcollector
    wired := by
      rw [htransports, List.length_append, ht]
      exact Nat.lt_succ_self _
    unattached := by
      rw [hpipeline]
      exact h.unattached
    asleep := by
      rw [hpipeline]
      exact h.asleep
    -- Nothing waits for the collector, which is new, nor for anybody else.
    empty := fun m hm side => by
      rcases List.mem_append.mp hm with hm | hm
      · rw [hcontext m hm]
        exact h.empty m hm side
      · rw [List.mem_singleton.mp hm, hcollector]
        cases side <;> exact Container.holds_new
    passing := by
      rw [hpipeline]
      exact h.passing
    kept := fun side => by
      rw [htransport]
      cases side <;> exact Container.holds_new }

end Adding

/-! ### Attaching the pipeline -/

/-- The row of a side is empty if all is that can be in it. -/
theorem row_empty (hempty : ∀ m ∈ l, ∀ side : Side, (side.waiting (w.context m.id)).Holds [] [])
    (hpassing : (w.pipeline p).sinkBuffer.Holds [] [])
    (hkept : ∀ side, ((w.transport t).kept side).Holds [] []) (side : Side) :
    ∀ c ∈ w.row p l t side, c.Holds [] [] := by
  intro c hc
  rcases List.mem_cons.mp hc with rfl | hc
  · exact hkept side
  · rcases List.mem_map.mp hc with ⟨place, hplace, rfl⟩
    rcases Side.mem_route hplace with hexit | ⟨m, hm, rfl⟩
    · cases side with
      | inbound => exact absurd hexit List.not_mem_nil
      | outbound =>
          rw [List.mem_singleton.mp hexit]
          exact hpassing
    · rw [container_place]
      exact hempty m (Side.mem_of_stops hm) side

/-- The world with a new embedded channel that a pipeline is attached to. -/
def lent (w : World σ) (p : PipelineId) (t : TransportId) (loop : LoopKind) : World σ :=
  (w.newChannel { pipeline := p, loop, backing := .embedded t }).2.updatePipeline p
    ({ · with attachment := some { channel := w.channels.length, sink := .embedded t, loop } })

theorem pipeline_lent (hp : p < w.pipelines.length) (t : TransportId) (loop : LoopKind) :
    (w.lent p t loop).pipeline p =
      { w.pipeline p with
        attachment := some { channel := w.channels.length, sink := .embedded t, loop } } :=
  pipeline_updatePipeline_self hp _

theorem loopOf_lent (hp : p < w.pipelines.length) (t : TransportId) (loop : LoopKind) :
    (w.lent p t loop).loopOf p = loop := by
  rw [loopOf, pipeline_lent hp]

theorem channel_newChannel (w : World σ) (ch : Channel) :
    (w.newChannel ch).2.channel w.channels.length = ch := by
  rw [channel, newChannel, List.getElem?_append_right (Nat.le_refl _), Nat.sub_self]
  rfl

/-- Whoever made the channel holds it, and with it the pipeline. -/
theorem isKept_lent (w : World σ) (p : PipelineId) (t : TransportId) (loop : LoopKind) :
    (w.lent p t loop).isKept p = true := by
  have hheld : (w.lent p t loop).held = .channel w.channels.length :: w.held := rfl
  have hchannel : ((w.lent p t loop).channel w.channels.length).pipeline = p :=
    congrArg Channel.pipeline (channel_newChannel w _)
  rw [isKept, hheld, List.any_cons, pipelineKept, hchannel, beq_self_eq_true, Bool.true_or,
    Bool.true_or]

theorem attach_newChannel (hunattached : (w.pipeline p).attachment = none) (t : TransportId)
    (loop : LoopKind) :
    (w.newChannel { pipeline := p, loop, backing := .embedded t }).2.attach p w.channels.length
      (.embedded t) = (.ok (), w.lent p t loop) := by
  have hnone : ((w.newChannel { pipeline := p, loop, backing := .embedded t }).2.pipeline
      p).attachment = none := hunattached
  rw [attach, hnone, channel_newChannel]
  rfl

/-- Once the collector is added, the pipeline is attached and two events are fired. -/
theorem openEmbedded_lent [Journal σ] {call : Caller σ} {w₁ : World σ}
    (hadd : w.newTransport.2.add call p .last Handler.collectorName
      (.collector w.transports.length) = (.ok (), w₁))
    (hunattached : (w₁.pipeline p).attachment = none) (loop : LoopKind) :
    w.openEmbedded call p loop =
      (.ok w₁.channels.length, ((w₁.lent p w.transports.length loop).fire call p
        .channelOpen).fire call p .channelActive) := by
  have hnew : w.newTransport = (w.transports.length, w.newTransport.2) := rfl
  have hchannel : ∀ c, w₁.newChannel c = (w₁.channels.length, (w₁.newChannel c).2) := fun _ => rfl
  rw [openEmbedded, hnew]
  dsimp only
  rw [hadd]
  dsimp only
  rw [hchannel]
  dsimp only
  rw [attach_newChannel hunattached]

/-- What binds a pipeline to the next channel, on the inline loop. -/
def embeddedAttachment (w : World σ) (t : TransportId) : Attachment where
  channel := w.channels.length
  sink := .embedded t
  loop := .inline

/-- The world with a new channel that a pipeline is attached to. -/
def attached (w : World σ) (p : PipelineId) (t : TransportId) : World σ :=
  (w.newChannel { pipeline := p, loop := .inline, backing := .embedded t }).2.updatePipeline p
    ({ · with attachment := some (w.embeddedAttachment t) })

theorem pipeline_attached (hp : p < w.pipelines.length) (t : TransportId) :
    (w.attached p t).pipeline p =
      { w.pipeline p with attachment := some (w.embeddedAttachment t) } :=
  pipeline_lent hp t .inline

/-- An attached pipeline is between the two ends of the transport, which has nothing yet. -/
theorem Poised.attached (h : w.Poised p l x t) :
    (w.attached p t).Conveying p (l ++ [x]) x t fun _ => {} := by
  have hpipeline := pipeline_attached h.known t
  have hattachment : ((w.attached p t).pipeline p).attachment = some (w.embeddedAttachment t) :=
    congrArg Pipeline.attachment hpipeline
  have hchain : (w.attached p t).chain p = w.chain p := (congrArg Pipeline.chain hpipeline :)
  have hloop : (w.attached p t).loopOf p = .inline := loopOf_lent h.known t .inline
  have hkept : (w.attached p t).isKept p = true := isKept_lent w p t .inline
  have hpassing : ((w.attached p t).pipeline p).sinkBuffer.Holds [] [] := by
    rw [hpipeline]
    exact h.passing
  -- To attach moves no data, so all containers are still empty.
  have hempty : ∀ m ∈ l ++ [x], ∀ side : Side,
      (side.waiting ((w.attached p t).context m.id)).Holds [] [] := h.empty
  have hkeeps : ∀ side, (((w.attached p t).transport t).kept side).Holds [] [] := h.kept
  exact {
    rigged := {
      hosts := h.hosts.congr hchain rfl
      ready := ⟨by rw [hloop]; rfl, hkept⟩
      last := ⟨l, rfl⟩
      plain := fun m hm hx =>
        (List.mem_append.mp hm).elim (h.plain m) fun hm => absurd (List.mem_singleton.mp hm) hx
      collector := h.collector
      sink := by
        rw [sinkOf, hattachment]
        rfl
      wired := h.wired }
    carry := fun side => .of_empty (row_empty hempty hpassing hkeeps side)
    room := fun _ => Nat.zero_le _ }

/-! ### Coming to life -/

theorem Conveying.updateActivation (h : w.Conveying p l x t load) (f : Activation → Activation) :
    (w.updateActivation p f).Conveying p l x t load where
  rigged := {
    hosts := h.rigged.hosts.congr (chain_updateActivation w p p f) rfl
    ready := h.rigged.ready.congr (loopOf_updateActivation w p p f) rfl h.rigged.ready.kept
    last := h.rigged.last
    plain := h.rigged.plain
    collector := h.rigged.collector
    sink := by
      have hattachment : ((w.updateActivation p f).pipeline p).attachment =
          (w.pipeline p).attachment :=
        pipeline_updatePipeline (f := fun x => { x with activation := f x.activation })
          (g := Pipeline.attachment) (fun _ => rfl) w p p
      rw [sinkOf, hattachment]
      exact h.rigged.sink
    wired := h.rigged.wired }
  carry := fun side => by
    have hsame : (w.updateActivation p f).container = w.container :=
      funext (container_updateActivation w p f)
    rw [row, hsame]
    exact h.carry side
  room := h.room

theorem activation_updateActivation (hp : p < w.pipelines.length) (f : Activation → Activation) :
    ((w.updateActivation p f).pipeline p).activation = f (w.pipeline p).activation :=
  congrArg Pipeline.activation (pipeline_updatePipeline_self hp _)

section Life

variable [Journal σ] (porters : Porters σ) (depth : Nat)

/-- A pulse is delivered between the two ends like any other event. -/
theorem start_conveyed (h : w.Conveying p l x t load) (e : Pulse) :
    w.Conveyed (w.start (respond porters.play depth) p e) p l x t load := by
  have hstarted := h.mark p (.started e)
  have hfired := fireNow_conveyed porters depth hstarted.conveying .start e.event
  exact (hstarted.trans hfired).trans (hfired.conveying.mark p (.finished e))

/-- The channel is open, and nothing else has happened so far. -/
theorem fire_open (h : w.Conveying p l x t load) (hasleep : (w.pipeline p).activation = {}) :
    let w' := w.fire (respond porters.play depth) p .channelOpen
    w'.Conveying p l x t load ∧ (w'.pipeline p).activation = { opened := true } := by
  intro w'
  have hp := length_of_sink h.rigged.sink
  obtain ⟨w₀, hw₀⟩ : ∃ w₀, w₀ = w.mark p (.fired .opened) := ⟨_, rfl⟩
  have hmarked : w₀.Conveying p l x t load := hw₀ ▸ (h.mark p _).conveying
  have hasleep₀ : (w₀.pipeline p).activation = {} := hw₀ ▸ hasleep
  have hopened := hmarked.updateActivation ({ · with opened := true, pendingActive := false })
  -- No activation waits, so opening is all that happens.
  have hstarted := start_conveyed porters depth hopened .opened
  have hw' : w' = (w₀.updateActivation p ({ · with opened := true, pendingActive := false })).start
      (respond porters.play depth) p .opened := by
    have hexecute : w' = w₀.openNow (respond porters.play depth) p :=
      hw₀ ▸ h.rigged.ready.execute _ .open
    rw [hexecute, openNow, hasleep₀]
    rfl
  rw [hw']
  refine ⟨hstarted.conveying, ?_⟩
  rw [hstarted.activation, activation_updateActivation (hw₀ ▸ hp), hasleep₀]

/-- The channel is active, and nothing was announced before. -/
theorem fire_active (h : w.Conveying p l x t load)
    (hopened : (w.pipeline p).activation = { opened := true }) :
    let w' := w.fire (respond porters.play depth) p .channelActive
    w'.Conveying p l x t load ∧ (w'.pipeline p).activation.active = true := by
  intro w'
  have hp := length_of_sink h.rigged.sink
  obtain ⟨w₀, hw₀⟩ : ∃ w₀, w₀ = w.mark p (.fired .activated) := ⟨_, rfl⟩
  have hmarked : w₀.Conveying p l x t load := hw₀ ▸ (h.mark p _).conveying
  have hopened₀ : (w₀.pipeline p).activation = { opened := true } := hw₀ ▸ hopened
  obtain ⟨w₁, hw₁⟩ : ∃ w₁, w₁ = (w₀.updateActivation p ({ · with active := true })).start
      (respond porters.play depth) p .activated := ⟨_, rfl⟩
  have hstarted := start_conveyed porters depth
    (hmarked.updateActivation ({ · with active := true })) .activated
  rw [← hw₁] at hstarted
  -- No handler announces anything, so there is nothing to replay.
  have hactivation : (w₁.pipeline p).activation = { opened := true, active := true } := by
    rw [hstarted.activation, activation_updateActivation (hw₀ ▸ hp), hopened₀]
  have hw' : w' = w₁.updateActivation p ({ · with pendingUpdate := false }) := by
    have hexecute : w' = w₀.activeNow (respond porters.play depth) p :=
      hw₀ ▸ h.rigged.ready.execute _ .active
    rw [hexecute, activeNow, hopened₀]
    dsimp only
    rw [← hw₁, hactivation]
    rfl
  have hp₁ := length_of_sink hstarted.conveying.rigged.sink
  rw [hw', activation_updateActivation hp₁, hactivation]
  exact ⟨hstarted.conveying.updateActivation _, rfl⟩

/-- An embedded channel can be put on any idle pipeline. The pipeline is then between the two
    ends of a new transport, the channel is active, and the transport has nothing yet. -/
theorem openEmbedded_conveying (h : w.Idle p l) :
    ∃ ch w', w.openEmbedded (respond porters.play (depth + 1)) p .inline = (.ok ch, w') ∧
      w'.Conveying p (l ++ [w.collectorMember]) w.collectorMember w.transports.length
        (fun _ => {}) ∧
      (w'.pipeline p).activation.active = true := by
  rcases h.poised porters.play depth with ⟨w₁, hadd, hpoised⟩
  have hattached := hpoised.attached
  have hasleep : ((w₁.attached p w.transports.length).pipeline p).activation = {} := by
    rw [pipeline_attached hpoised.known]
    exact hpoised.asleep
  have hopened := fire_open porters (depth + 1) hattached hasleep
  have hactive := fire_active porters (depth + 1) hopened.1 hopened.2
  refine ⟨w₁.channels.length, _, ?_, hactive.1, hactive.2⟩
  exact openEmbedded_lent hadd hpoised.unattached .inline

end Life

end World

end Conduit
