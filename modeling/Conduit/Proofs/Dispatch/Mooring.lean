import Conduit.Proofs.Dispatch.Carriage
import Conduit.Proofs.Dispatch.Opening
import Conduit.Proofs.Outside.Interruption

/-!
# Between Two Channels

A pipeline outlives its channels. It is put on one, taken off, and put on the next, and in
between its handlers come and go. The containers of the handlers and the one in front of the
sink belong to the pipeline and not to a channel, so whatever is left in one of them when a
channel goes would be found by the next.

Nothing is left, though. `Calm` is what is true between any two calls from outside if the
handlers do nothing of their own: all these containers are empty, no event is put off, and
there is either no channel, or one whose transport is where the sink leads. Each of the
lemmas here takes one kind of call and says that it leaves the pipeline calm, and what has
come to the transports.

## Main definitions

* `World.berth`: The transport of the channel that a pipeline is attached to.
* `World.Moored`: The sink of a pipeline leads to its channel.
* `World.Calm`: A pipeline between two calls.
* `World.Passed`: What has become of it after a call.

## Theorems

* `Passed.of_same`: Where nothing is given.
* `Moored.cases`, `Moored.mono`: What a pipeline is moored to.
* `Hosts.length_le`, `length_targets_le`: There are enough contexts.
* `Calm.relays`: Such a pipeline can carry data.
* `Calm.rebound`: What concerns only the attachment leaves it calm.
* `Calm.setUser`, `Calm.mark`, `Calm.updateActivation`, `Calm.newTransport`,
  `Calm.lostChannel`, `Calm.lent`, `Calm.newPromise`: So does each of these.
* `transport_newTransport`: A new transport has nothing yet.
* `Calm.extended`, `Calm.empty_member`, `Calm.move`: So does a call that rearranges it.
* `Calm.openEmbedded`, `Calm.detach`: And attaching and detaching it.
* `openEmbedded_unnamed`, `openEmbedded_attached`: How attaching it may fail.
* `Calm.fireNow_quiet`, `Calm.start`, `Calm.fire_alive`: Its channel comes to life.
* `Calm.passed`, `halt_within`, `Calm.outboundTarget`, `Calm.bears`, `Bears.sendNow`: Data
  goes out.
* `Calm.write`, `Calm.flush`: A message, and a flush without one.
-/

namespace Conduit

open Roster

namespace World

variable {σ : Type} {w w' : World σ} {p : PipelineId} {l : Roster} {given : List Message}
  {f : PromiseId} {load : Load}

/-- The transport of the embedded channel that a pipeline is attached to. -/
def berth (w : World σ) (p : PipelineId) : Option TransportId :=
  match (w.pipeline p).attachment with
  | none => none
  | some a =>
    match (w.channel a.channel).backing with
    | .embedded t => some t
    | .fixed .. => none

/-- If a pipeline is attached, then on the inline loop, and its sink leads to the transport of
    its channel. -/
def Moored (w : World σ) (p : PipelineId) : Prop :=
  ∀ a, (w.pipeline p).attachment = some a → a.channel < w.channels.length ∧ a.loop = .inline ∧
    ∃ t < w.transports.length,
      (w.channel a.channel).backing = .embedded t ∧ a.sink = .embedded t

/-- A pipeline of inert handlers between two calls from outside. No data waits in it, no event
    is put off, and somebody holds it. -/
structure Calm (w : World σ) (p : PipelineId) : Prop where
  sound : w.Sound
  known : p < w.pipelines.length
  held : Holding.pipeline p ∈ w.held
  inert : ∀ m ∈ w.roster p, (w.context m.id).handler.IsInert
  empty : ∀ place : Place, place.Within p (w.roster p) → (w.container place).Holds [] []
  awake : (w.pipeline p).activation.pendingActive = false ∧
    (w.pipeline p).activation.pendingUpdate = false
  moored : w.Moored p
  kept : ∀ t, (w.transport t).outbound.Holds (w.transport t).outbound.bytes.content
    (w.transport t).outbound.messages

/-- The pipeline is calm again, and what was given has come to the transport that it is attached
    to, behind all else. No other transport has anything new. -/
structure Passed (w w' : World σ) (p : PipelineId) (given : List Message) : Prop where
  calm : w'.Calm p
  grown : w'.contexts.length ≤ w.contexts.length + 1
  bytes : ∀ t, (w'.transport t).outbound.bytes.content =
    (w.transport t).outbound.bytes.content ++
      (if w.berth p = some t then given else []).flatMap Message.loose
  messages : ∀ t, (w'.transport t).outbound.messages =
    (w.transport t).outbound.messages ++
      (if w.berth p = some t then given else []).flatMap Message.queued
  inbound : ∀ t, (w'.transport t).inbound = (w.transport t).inbound

/-- Where nothing is given, the transports need only have what they had. -/
theorem Passed.of_same (hcalm : w'.Calm p) (hgrown : w'.contexts.length ≤ w.contexts.length + 1)
    (hsame : ∀ t, (w'.transport t).outbound = (w.transport t).outbound ∧
      (w'.transport t).inbound = (w.transport t).inbound) : w.Passed w' p [] where
  calm := hcalm
  grown := hgrown
  bytes := fun t => by rw [(hsame t).1, ite_self, List.flatMap_nil, List.append_nil]
  messages := fun t => by rw [(hsame t).1, ite_self, List.flatMap_nil, List.append_nil]
  inbound := fun t => (hsame t).2

/-! ### A pipeline that can carry data -/

/-- A pipeline is moored to nothing, or to the transport of its channel. -/
theorem Moored.cases (h : w.Moored p) :
    ((w.pipeline p).attachment = none ∧ w.berth p = none ∧ w.sinkOf p = .discarding ∧
      w.loopOf p = .inline) ∨
    ∃ a t, (w.pipeline p).attachment = some a ∧ w.berth p = some t ∧
      w.sinkOf p = .embedded t ∧ w.loopOf p = .inline ∧ t < w.transports.length := by
  cases hattachment : (w.pipeline p).attachment with
  | none => exact Or.inl ⟨rfl, by simp [berth, hattachment], by simp [sinkOf, hattachment],
      by simp [loopOf, hattachment]⟩
  | some a =>
      rcases h a hattachment with ⟨-, hloop, t, ht, hbacking, hsink⟩
      exact Or.inr ⟨a, t, rfl, by simp [berth, hattachment, hbacking],
        by simp [sinkOf, hattachment, hsink], by simp [loopOf, hattachment, hloop], ht⟩

/-- No channel, and nothing of its transport, is lost sight of as long as both only get more. -/
theorem Moored.mono (h : w.Moored p)
    (hattachment : (w'.pipeline p).attachment = (w.pipeline p).attachment)
    (hchannels : w.channels <+: w'.channels)
    (htransports : w.transports.length ≤ w'.transports.length) : w'.Moored p := by
  intro a ha
  rcases h a (hattachment ▸ ha) with ⟨hch, hloop, t, ht, hbacking, hsink⟩
  have hsame : w'.channel a.channel = w.channel a.channel := by
    rcases hchannels with ⟨more, hmore⟩
    rw [channel, ← hmore, List.getElem?_append_left hch, channel]
  exact ⟨Nat.lt_of_lt_of_le hch hchannels.length_le, hloop, t, Nat.lt_of_lt_of_le ht htransports,
    hsame ▸ hbacking, hsink⟩

theorem Calm.relays (h : w.Calm p) : w.Relays p (w.roster p) (w.berth p) := by
  have hkept : w.isKept p = true := by
    rw [isKept, List.any_eq_true.mpr ⟨.pipeline p, h.held, beq_self_eq_true p⟩, Bool.true_or]
  rcases h.moored.cases with ⟨-, hberth, hsink, hloop⟩ | ⟨a, t, -, hberth, hsink, hloop, ht⟩
  · exact ⟨h.sound p, ⟨by rw [hloop]; rfl, hkept⟩, h.known, h.inert, by rw [hsink, hberth]; rfl,
      fun u hu => by rw [hberth] at hu; cases hu⟩
  · exact ⟨h.sound p, ⟨by rw [hloop]; rfl, hkept⟩, h.known, h.inert, by rw [hsink, hberth]; rfl,
      fun u hu => by rw [hberth] at hu; cases hu; exact ht⟩

/-- A pipeline has no more members than there are contexts. -/
theorem Hosts.length_le (h : w.Hosts p l) : l.length ≤ w.contexts.length := by
  have hsub : ids l ⊆ List.range w.contexts.length := by
    intro c hc
    rcases mem_ids.mp hc with ⟨m, hm, rfl⟩
    exact List.mem_range.mpr (h.known m hm)
  have hlen := h.holds.linked.ids_nodup.length_le_of_subset hsub
  rwa [List.length_range, ids, List.length_map] at hlen

theorem length_targets_le (l : Roster) (cursor : Cursor) (kind : EventKind) :
    (l.targets cursor kind).length ≤ l.length :=
  (List.filter_sublist.trans (ahead_suffix l cursor).sublist).length_le

/-! ### What leaves a pipeline calm -/

/-- A pipeline stays calm if all that has changed is what it is attached to. -/
theorem Calm.rebound (h : w.Calm p) (houtline : w'.outline = w.outline)
    (hcontexts : w'.contexts = w.contexts) (hpipelines : w'.pipelines.length = w.pipelines.length)
    (hbuffer : (w'.pipeline p).sinkBuffer = (w.pipeline p).sinkBuffer)
    (hheld : Holding.pipeline p ∈ w'.held)
    (hawake : (w'.pipeline p).activation.pendingActive = false ∧
      (w'.pipeline p).activation.pendingUpdate = false)
    (hmoored : w'.Moored p) (hkept : ∀ t, (w'.transport t).outbound = (w.transport t).outbound) :
    w'.Calm p := by
  -- The structure and the contexts are as they were, so nobody has come and nothing has moved.
  have hroster := roster_of_outline houtline p
  have hcontext : ∀ c, w'.context c = w.context c := fun c => by rw [context, hcontexts, context]
  exact {
    sound := h.sound.of_outline houtline
    known := hpipelines ▸ h.known
    held := hheld
    inert := fun m hm => by
      rw [hcontext]
      exact h.inert m (hroster ▸ hm)
    empty := fun place hplace => by
      rw [hroster] at hplace
      have hempty := h.empty place hplace
      cases place with
      | inbound c | outbound c =>
          rw [container, hcontext]
          exact hempty
      | sink q =>
          change q = p at hplace
          rw [hplace] at hempty ⊢
          rw [container, hbuffer]
          exact hempty
      | tail q | nowhere => exact absurd hplace id
    awake := hawake
    moored := hmoored
    kept := fun t => by
      rw [hkept]
      exact h.kept t }

theorem Calm.setUser (h : w.Calm p) (user : σ) : (w.setUser user).Calm p :=
  h.rebound rfl rfl rfl rfl h.held h.awake h.moored fun _ => rfl

/-- Nor is what is taken down of its channel. -/
theorem Calm.mark (h : w.Calm p) (q : PipelineId) (m : Mark) : (w.mark q m).Calm p :=
  h.rebound rfl rfl rfl rfl h.held h.awake h.moored fun _ => rfl

/-- How far its channel has come to life is no concern of it as long as nothing is put off. -/
theorem Calm.updateActivation (h : w.Calm p) {g : Activation → Activation}
    (hg : ∀ x, x.pendingActive = false → x.pendingUpdate = false →
      (g x).pendingActive = false ∧ (g x).pendingUpdate = false) :
    (w.updateActivation p g).Calm p := by
  have hpipeline : (w.updateActivation p g).pipeline p =
      { w.pipeline p with activation := g (w.pipeline p).activation } :=
    pipeline_updatePipeline_self h.known _
  refine h.rebound (outline_updateActivation w p g) rfl (List.length_modify _ _ _) ?_ h.held ?_ ?_
    fun _ => rfl
  · rw [hpipeline]
  · rw [hpipeline]
    exact hg _ h.awake.1 h.awake.2
  · exact h.moored.mono (congrArg Pipeline.attachment hpipeline :) (List.prefix_refl _)
      (Nat.le_refl _)

/-- A new transport has nothing yet. -/
theorem transport_newTransport [Journal σ] (w : World σ) (t : TransportId) :
    (w.newTransport.2.transport t).outbound = (w.transport t).outbound ∧
      (w.newTransport.2.transport t).inbound = (w.transport t).inbound := by
  rw [transport, transport, newTransport]
  rcases Nat.lt_or_ge t w.transports.length with ht | ht
  · rw [List.getElem?_append_left ht]
    exact ⟨rfl, rfl⟩
  · rw [List.getElem?_append_right ht, List.getElem?_eq_none ht]
    cases t - w.transports.length <;> exact ⟨rfl, rfl⟩

theorem Calm.newTransport [Journal σ] (h : w.Calm p) : w.newTransport.2.Calm p := by
  refine h.rebound rfl rfl rfl rfl h.held h.awake ?_ fun t => (transport_newTransport w t).1
  refine h.moored.mono rfl (List.prefix_refl _) ?_
  rw [World.newTransport, List.length_append]
  exact Nat.le_add_right _ _

/-- A channel that nobody is attached to and nobody holds makes no difference. -/
theorem Calm.lostChannel (h : w.Calm p) (ch : Channel) :
    ((w.newChannel ch).2.release (.channel w.channels.length)).Calm p := by
  have hheld : ((w.newChannel ch).2.release (.channel w.channels.length)).held = w.held :=
    List.erase_cons_head _ _
  refine h.rebound rfl rfl rfl rfl (hheld ▸ h.held) h.awake ?_ fun _ => rfl
  exact h.moored.mono rfl (List.prefix_append _ _) (Nat.le_refl _)

/-- A pipeline that is attached to a new channel is moored there. -/
theorem Calm.lent (h : w.Calm p) {t : TransportId} (ht : t < w.transports.length) :
    (w.lent p t .inline).Calm p := by
  have hpipeline := pipeline_lent h.known t .inline
  have houtline : (w.lent p t .inline).outline = w.outline :=
    (outline_updatePipeline (by intro x; rfl) _ p).trans (outline_of_figure (figure_newChannel w _))
  refine h.rebound houtline rfl (List.length_modify _ _ _) ?_ (List.mem_cons_of_mem _ h.held) ?_ ?_
    fun _ => rfl
  · rw [hpipeline]
  · rw [hpipeline]
    exact h.awake
  · intro a ha
    rw [hpipeline] at ha
    cases ha
    -- The channel that has just been made stands for the pipeline and has the transport.
    have hchannel := channel_newChannel w { pipeline := p, loop := .inline, backing := .embedded t }
    refine ⟨?_, rfl, t, ht, congrArg Channel.backing hchannel, rfl⟩
    change w.channels.length < (w.channels ++ [_]).length
    rw [List.length_append]
    exact Nat.lt_succ_self _

/-- A pipeline that is detached forgets its channel, and how far that had come to life. -/
theorem Calm.detach (h : w.Calm p) : w.Passed (w.detach p) p [] := by
  have hcalm : (w.detach p).Calm p := by
    rw [World.detach]
    cases hattachment : (w.pipeline p).attachment with
    | none => exact h
    | some a =>
        have hpipeline : ((w.mark p .detached).updatePipeline p
            ({ · with attachment := none, activation := {} })).pipeline p =
              { w.pipeline p with attachment := none, activation := {} } :=
          pipeline_updatePipeline_self (w := w.mark p .detached) h.known _
        refine h.rebound (outline_updatePipeline (by intro x; rfl) (w.mark p .detached) p) rfl
          (List.length_modify _ _ _) ?_ h.held ?_ ?_ fun _ => rfl
        · rw [hpipeline]
        · rw [hpipeline]
          exact ⟨rfl, rfl⟩
        · intro a ha
          rw [hpipeline] at ha
          cases ha
  -- To detach sends nothing.
  have hsame : (w.detach p).transports = w.transports ∧ (w.detach p).contexts = w.contexts := by
    rw [World.detach]
    cases (w.pipeline p).attachment <;> exact ⟨rfl, rfl⟩
  refine .of_same hcalm (by rw [hsame.2]; exact Nat.le_succ _) fun t => ?_
  rw [transport, hsame.1]
  exact ⟨rfl, rfl⟩

/-! ### Data comes and goes -/

/-- A pipeline is calm when data has been sent, and its transport has got the data. -/
theorem Calm.passed (h : w.Calm p) (hsound : w'.Sound)
    (hsent : w.Sent w' p (w.roster p) (w.berth p) f
      ⟨given.flatMap Message.loose, given.flatMap Message.queued⟩) : w.Passed w' p given := by
  have hrig := hsent.rigging
  have hrelays := h.relays.of_rigging hrig
  have hroster : w'.roster p = w.roster p := hrelays.hosts.roster_eq
  have hpipe : w'.pipelines.map Pipeline.bare = w.pipelines.map Pipeline.bare :=
    congrArg World.pipelines hrig
  have hcontexts : w'.contexts.map Context.bare = w.contexts.map Context.bare :=
    congrArg World.contexts hrig
  have hheld : w'.held = w.held := (congrArg World.held hrig :)
  have hchannels : w'.channels = w.channels := (congrArg World.channels hrig :)
  -- Data and promises are all that has changed, so most of being calm is as it was.
  have htransports := congrArg (fun w => w.transports.length) hrig
  simp only [rigging, bare, List.length_map] at htransports
  have hlen := congrArg List.length hcontexts
  simp only [List.length_map] at hlen
  exact {
    calm := {
      sound := hsound
      known := hrelays.known
      held := hheld ▸ h.held
      inert := hroster ▸ hrelays.inert
      empty := hroster ▸ hsent.empty
      awake := by
        rw [pipeline_congr (f := Pipeline.activation) (fun _ => rfl) hpipe]
        exact h.awake
      moored := h.moored.mono (attachment_congr hpipe p) (hchannels ▸ List.prefix_refl _)
        (Nat.le_of_eq htransports.symm)
      kept := fun t => by
        by_cases ht : w.berth p = some t
        · exact (hsent.taken t ht).self
        · rw [hsent.others t ht]
          exact h.kept t }
    grown := Nat.le_succ_of_le (Nat.le_of_eq hlen)
    bytes := fun t => by
      by_cases ht : w.berth p = some t
      · rw [if_pos ht, (hsent.taken t ht).bytes.content]
      · rw [if_neg ht, hsent.others t ht, List.flatMap_nil, List.append_nil]
    messages := fun t => by
      by_cases ht : w.berth p = some t
      · rw [if_pos ht, (hsent.taken t ht).messages]
      · rw [if_neg ht, hsent.others t ht, List.flatMap_nil, List.append_nil]
    inbound := hsent.inbound }

/-- Where a flush comes to first is one of the places of the pipeline. -/
theorem halt_within (l : Roster) (p : PipelineId) :
    ((Roster.targets l.reverse .start .flush).halt p).Within p l := by
  cases htargets : Roster.targets l.reverse .start .flush with
  | nil => rfl
  | cons m ms =>
      have hm : m ∈ l.reverse := List.mem_of_mem_filter (htargets ▸ List.mem_cons_self)
      exact mem_ids.mpr ⟨m, List.mem_reverse.mp hm, rfl⟩

/-- What is sent is put where the flush that comes with it will find it. -/
theorem Calm.outboundTarget (h : w.Calm p) : w.outboundTarget p .start =
    (Roster.targets (w.roster p).reverse .start .flush).halt p := by
  cases htargets : Roster.targets (w.roster p).reverse .start .flush with
  | nil => exact (h.sound p).outboundTarget_none htargets
  | cons m ms => exact (h.sound p).outboundTarget_some htargets

/-- What is put where a flush comes to first is all the data in the pipeline. -/
theorem Calm.bears (h : w.Calm p) {c : Container} {place : Place}
    (hplace : place = (Roster.targets (w.roster p).reverse .start .flush).halt p)
    (hc : c.Holds load.bytes load.messages)
    (hroom : ∀ t, ((w.transport t).outbound.bytes.content ++ load.bytes).length ≤
      Capacity.defaultMax) :
    (w.setContainer place c).Bears p (w.roster p) (w.berth p) place load := by
  have hhas := h.relays.has (hplace ▸ halt_within (w.roster p) p)
  refine ⟨h.relays.of_rigging (rigging_of_bare (bare_setContainer w place c)), ?_,
    fun other hother hne => ?_, fun t _ => ?_, ?_, fun t _ => ?_⟩
  · rw [container_setContainer_self hhas]
    exact hc
  · rw [container_setContainer_ne hne]
    exact h.empty other hother
  · rw [transport_setContainer]
    exact h.kept t
  · have hfits := hroom 0
    rw [List.length_append] at hfits
    exact Nat.le_trans (Nat.le_add_left _ _) hfits
  · rw [transport_setContainer]
    exact hroom t

theorem Calm.newPromise (h : w.Calm p) : w.newPromise.2.Calm p :=
  h.rebound rfl rfl rfl rfl h.held h.awake h.moored fun _ => rfl

/-! ### Handlers come and go -/

/-- Who is a member afterwards has been one before, or has just come. -/
theorem Calm.empty_member (h : w.Calm p) (hextends : w.Extends w')
    (hdescends : Descends w.contexts.length w w') {m : Member} (hm : m ∈ w'.roster p) :
    (w'.context m.id).handler.IsInert ∧ (w'.context m.id).inbound.Holds [] [] ∧
      (w'.context m.id).outbound.Holds [] [] := by
  rcases Nat.lt_or_ge m.id w.contexts.length with hold | hnew
  · -- A context that was there before is a member only if it was one, and has what it had.
    have hbefore := hdescends.mem hm hold
    have hsame := hextends.known m.id hold
    have hid : m.id ∈ ids (w.roster p) := mem_ids.mpr ⟨m, hbefore, rfl⟩
    have hhandler : (w'.context m.id).handler = (w.context m.id).handler :=
      (congrArg Context.handler hsame :)
    have hinbound : (w'.context m.id).inbound = (w.context m.id).inbound :=
      (congrArg Context.inbound hsame :)
    have houtbound : (w'.context m.id).outbound = (w.context m.id).outbound :=
      (congrArg Context.outbound hsame :)
    rw [hhandler, hinbound, houtbound]
    exact ⟨h.inert m hbefore, h.empty (.inbound m.id) hid, h.empty (.outbound m.id) hid⟩
  · rcases hextends.joined m.id ((hdescends.sound p).known m hm) hnew with
      ⟨hinert, hinbound, houtbound⟩
    rw [hinbound, houtbound]
    exact ⟨hinert, Container.holds_new, Container.holds_new⟩

/-- A pipeline stays calm if all that has changed is who is in it. -/
theorem Calm.extended (h : w.Calm p) (hextends : w.Extends w')
    (hdescends : Descends w.contexts.length w w') : w'.Calm p := by
  have hhoused := hextends.housed
  have htransports : w'.transports = w.transports := (congrArg World.transports hhoused :)
  have hheld : w'.held = w.held := (congrArg World.held hhoused :)
  have hchannels : w'.channels = w.channels := (congrArg World.channels hhoused :)
  have hpipelines := congrArg (fun w => w.pipelines.length) hhoused
  simp only [housing, List.length_map] at hpipelines
  -- Of the pipeline only the chain may have changed.
  have hpipeline : ∀ {β : Type} {g : Pipeline → β}, (∀ x, g x.unchained = g x) →
      g (w'.pipeline p) = g (w.pipeline p) := fun hg =>
    getD_congr hg (congrArg World.pipelines hhoused) p default
  exact {
    sound := hdescends.sound
    known := hpipelines ▸ h.known
    held := hheld ▸ h.held
    inert := fun m hm => (h.empty_member hextends hdescends hm).1
    empty := fun place hplace => by
      cases place with
      | inbound c =>
          rcases mem_ids.mp hplace with ⟨m, hm, rfl⟩
          exact (h.empty_member hextends hdescends hm).2.1
      | outbound c =>
          rcases mem_ids.mp hplace with ⟨m, hm, rfl⟩
          exact (h.empty_member hextends hdescends hm).2.2
      | sink q =>
          change q = p at hplace
          rw [hplace, container, hpipeline (g := Pipeline.sinkBuffer) fun _ => rfl]
          exact h.empty (.sink p) rfl
      | tail q | nowhere => exact absurd hplace id
    awake := by
      rw [hpipeline (g := Pipeline.activation) fun _ => rfl]
      exact h.awake
    moored := h.moored.mono (hpipeline (g := Pipeline.attachment) fun _ => rfl)
      (hchannels ▸ List.prefix_refl _) (Nat.le_of_eq (congrArg List.length htransports.symm))
    kept := fun t => by
      rw [transport, htransports]
      exact h.kept t }

section Calls

variable [Journal σ]

/-- A call that rearranges a pipeline of inert handlers leaves it calm, whatever comes of it. -/
theorem Calm.move (h : w.Calm p) (players : Players σ) (depth : Nat) (m : Move)
    (hm : ∀ handler, m.handler? = some handler → handler.IsInert) :
    w.Passed (w.move (respond players.play (depth + 1)) p m) p [] ∧
      (w.move (respond players.play (depth + 1)) p m).transports = w.transports := by
  have hextends := move_inert players.play depth (h.sound p) h.inert m hm
  have hdescends := lineage_abides.move (respond_lineage players (depth + 1)) w p m h.sound
  have htransports : (w.move (respond players.play (depth + 1)) p m).transports = w.transports :=
    (congrArg World.transports hextends.housed :)
  refine ⟨.of_same (h.extended hextends hdescends) hextends.grown fun t => ?_, htransports⟩
  rw [transport, htransports]
  exact ⟨rfl, rfl⟩

/-! ### Channels come -/

variable (user : Caller σ → Caller σ) {depth : Nat}

/-- An event that says how far the channel has come to life changes only the user's part. -/
theorem Calm.fireNow_quiet (h : w.Calm p) {event : InboundEvent}
    (hquiet : event = .channelOpen ∨ event = .channelActive) (hdepth : w.contexts.length ≤ depth) :
    ∃ value, w.fireNow (respond user depth) p .start event = w.setUser value := by
  have hrelays := h.relays
  refine World.fireNow_quiet user hquiet _ depth w .start hrelays.hosts hrelays.ready h.inert rfl ?_
  exact Nat.le_trans (length_targets_le _ _ _) (Nat.le_trans hrelays.hosts.length_le hdepth)

/-- That one of them is dispatched can only be seen there, and on record. -/
theorem Calm.start (h : w.Calm p) {e : Pulse} (he : e = .opened ∨ e = .activated)
    (hdepth : w.contexts.length ≤ depth) :
    let w' := w.start (respond user depth) p e
    w'.Calm p ∧ (w'.pipeline p).activation = (w.pipeline p).activation ∧
      w'.transports = w.transports ∧ w'.contexts = w.contexts := by
  have hstarted := h.mark p (.started e)
  have hquiet : e.event = .channelOpen ∨ e.event = .channelActive := by
    rcases he with rfl | rfl
    · exact Or.inl rfl
    · exact Or.inr rfl
  rcases hstarted.fireNow_quiet user hquiet hdepth with ⟨value, hfire⟩
  dsimp only
  rw [World.start, hfire]
  exact ⟨(hstarted.setUser value).mark p _, rfl, rfl, rfl⟩

/-- Reporting that a channel is open, and then that it is active, leaves nothing behind. -/
theorem Calm.fire_alive (h : w.Calm p) (hdepth : w.contexts.length ≤ depth) :
    let w' := (w.fire (respond user depth) p .channelOpen).fire (respond user depth) p
      .channelActive
    w'.Calm p ∧ w'.transports = w.transports ∧ w'.contexts = w.contexts := by
  -- The channel is open, and nothing has waited for that.
  obtain ⟨w₀, hw₀⟩ : ∃ w₀, w₀ = (w.mark p (.fired .opened)).updateActivation p
    ({ · with opened := true, pendingActive := false }) := ⟨_, rfl⟩
  have hopening : w₀.Calm p :=
    hw₀ ▸ (h.mark p _).updateActivation fun _ _ hupdate => ⟨rfl, hupdate⟩
  obtain ⟨w₁, hw₁⟩ : ∃ w₁, w₁ = w₀.start (respond user depth) p .opened := ⟨_, rfl⟩
  have hcontexts₀ : w₀.contexts = w.contexts := hw₀ ▸ rfl
  rcases hopening.start user (Or.inl rfl) (hcontexts₀ ▸ hdepth) with
    ⟨hcalm₁, hactivation, htransports₁, hcontexts₁⟩
  rw [← hw₁] at hcalm₁ hactivation htransports₁ hcontexts₁
  have hopen : w.fire (respond user depth) p .channelOpen = w₁ := by
    have hexecute : w.fire (respond user depth) p .channelOpen =
        (w.mark p (.fired .opened)).openNow (respond user depth) p :=
      h.relays.ready.execute _ .open
    rw [hexecute, openNow, (h.mark p _).awake.1, ← hw₀, ← hw₁]
    rfl
  have hopened : (w₁.pipeline p).activation.opened = true := by
    rw [hactivation, hw₀]
    exact (congrArg Activation.opened
      (activation_updateActivation (w := w.mark p (.fired .opened)) h.known _) :)
  -- It is active, and no data was announced before.
  obtain ⟨w₂, hw₂⟩ : ∃ w₂, w₂ = (w₁.mark p (.fired .activated)).updateActivation p
    ({ · with active := true }) := ⟨_, rfl⟩
  have hactivating : w₂.Calm p :=
    hw₂ ▸ (hcalm₁.mark p _).updateActivation fun _ hactive hupdate => ⟨hactive, hupdate⟩
  obtain ⟨w₃, hw₃⟩ : ∃ w₃, w₃ = w₂.start (respond user depth) p .activated := ⟨_, rfl⟩
  have hcontexts₂ : w₂.contexts = w.contexts := by
    rw [hw₂]
    exact hcontexts₁.trans hcontexts₀
  rcases hactivating.start user (Or.inr rfl) (hcontexts₂ ▸ hdepth) with
    ⟨hcalm₃, -, htransports₃, hcontexts₃⟩
  rw [← hw₃] at hcalm₃ htransports₃ hcontexts₃
  have hactive : w₁.fire (respond user depth) p .channelActive =
      w₃.updateActivation p ({ · with pendingUpdate := false }) := by
    have hexecute : w₁.fire (respond user depth) p .channelActive =
        (w₁.mark p (.fired .activated)).activeNow (respond user depth) p :=
      hcalm₁.relays.ready.execute _ .active
    have hmarked : ((w₁.mark p (.fired .activated)).pipeline p).activation.opened = true := hopened
    rw [hexecute, activeNow, if_pos hmarked]
    dsimp only
    rw [← hw₂, ← hw₃, hcalm₃.awake.2]
    rfl
  dsimp only
  rw [hopen, hactive]
  refine ⟨hcalm₃.updateActivation fun _ hactive _ => ⟨hactive, rfl⟩, ?_, ?_⟩
  · have htransports₂ : w₂.transports = w.transports := by
      rw [hw₂]
      exact htransports₁.trans (hw₀ ▸ rfl)
    exact htransports₃.trans htransports₂
  · exact hcontexts₃.trans hcontexts₂

section Opening

variable {call : Caller σ} {w₁ : World σ}

/-- There is no channel where the name of its collector is taken. -/
theorem openEmbedded_unnamed {cause : Error}
    (hadd : w.newTransport.2.add call p .last Handler.collectorName
      (.collector w.transports.length) = (.error cause, w₁)) (loop : LoopKind) :
    w.openEmbedded call p loop = (.error cause, w₁) := by
  have hnew : w.newTransport = (w.transports.length, w.newTransport.2) := rfl
  rw [World.openEmbedded, hnew]
  dsimp only
  rw [hadd]

/-- Where there is a channel already, the new one is dropped again. -/
theorem openEmbedded_attached {a : Attachment}
    (hadd : w.newTransport.2.add call p .last Handler.collectorName
      (.collector w.transports.length) = (.ok (), w₁))
    (hattached : (w₁.pipeline p).attachment = some a) (loop : LoopKind) :
    w.openEmbedded call p loop = (.error (.illegalState .alreadyAttached),
      (w₁.newChannel { pipeline := p, loop, backing := .embedded w.transports.length }).2.release
        (.channel w₁.channels.length)) := by
  obtain ⟨ch, hch⟩ : ∃ ch : Channel, ch =
      { pipeline := p, loop, backing := .embedded w.transports.length } := ⟨_, rfl⟩
  have hnew : w.newTransport = (w.transports.length, w.newTransport.2) := rfl
  have hmade : w₁.newChannel ch = (w₁.channels.length, (w₁.newChannel ch).2) := rfl
  -- The collector has been added by then, and the pipeline is still attached to the other channel.
  have hattach : (w₁.newChannel ch).2.attach p w₁.channels.length
      (.embedded w.transports.length) =
        (.error (.illegalState .alreadyAttached), (w₁.newChannel ch).2) := by
    have hstill : ((w₁.newChannel ch).2.pipeline p).attachment = some a := hattached
    rw [attach, hstill]
  rw [World.openEmbedded, hnew]
  dsimp only
  rw [hadd]
  dsimp only
  rw [← hch, hmade]
  dsimp only
  rw [hattach]

end Opening

/-- A pipeline is calm when an embedded channel has been put on it, and also when that has
    failed. -/
theorem Calm.openEmbedded (h : w.Calm p) (players : Players σ)
    (hdepth : w.contexts.length < depth) :
    w.Passed (w.openEmbedded (respond players.play depth) p .inline).2 p [] := by
  obtain ⟨d, rfl⟩ : ∃ d, depth = d + 1 :=
    Nat.exists_eq_add_one_of_ne_zero (Nat.ne_zero_of_lt hdepth)
  obtain ⟨t, ht⟩ : ∃ t, t = w.transports.length := ⟨_, rfl⟩
  have hwired : t < w.newTransport.2.transports.length := by
    rw [World.newTransport, List.length_append, ht]
    exact Nat.lt_succ_self _
  rcases h.newTransport.move players d (.add .last Handler.collectorName (.collector t))
    fun handler hhandler => by cases hhandler; exact Handler.isInert_collector t with
    ⟨hadded, htransports⟩
  obtain ⟨outcome, w₁, hadd⟩ : ∃ outcome w₁, w.newTransport.2.add (respond players.play (d + 1))
      p .last Handler.collectorName (.collector t) = (outcome, w₁) := ⟨_, _, rfl⟩
  rw [World.move, hadd] at hadded htransports
  change w₁.transports = w.newTransport.2.transports at htransports
  have hcalm : w₁.Calm p := hadded.calm
  have hgrown : w₁.contexts.length ≤ w.contexts.length + 1 := hadded.grown
  have hsame : ∀ w' : World σ, w'.transports = w₁.transports → ∀ t,
      (w'.transport t).outbound = (w.transport t).outbound ∧
        (w'.transport t).inbound = (w.transport t).inbound := by
    intro w' hw' t
    rw [transport, hw', htransports]
    exact transport_newTransport w t
  rw [← htransports] at hwired
  rw [ht] at hadd
  cases outcome with
  | error cause =>
      rw [openEmbedded_unnamed hadd]
      exact .of_same hcalm hgrown (hsame w₁ rfl)
  | ok _ =>
      -- The collector has been added; attaching may fail all the same.
      cases hattachment : (w₁.pipeline p).attachment with
      | some a =>
          rw [openEmbedded_attached hadd hattachment]
          exact .of_same (hcalm.lostChannel _) hgrown (hsame _ rfl)
      | none =>
          have hdeep : (w₁.lent p t .inline).contexts.length ≤ d + 1 := Nat.le_trans hgrown hdepth
          rcases (hcalm.lent hwired).fire_alive players.play hdeep with
            ⟨halive, htransports', hcontexts⟩
          rw [openEmbedded_lent hadd hattachment, ← ht]
          refine .of_same halive ?_ (hsame _ htransports')
          rw [hcontexts]
          exact hgrown

/-! ### Data goes out -/

/-- A flush for which a promise was just made carries the data to the end. -/
theorem Bears.sendNow {wire : Option TransportId}
    (h : w'.Bears p l wire ((Roster.targets l.reverse .start .flush).halt p) load)
    (hpromises : w'.promises = w.newPromise.2.promises) (hdepth : w'.contexts.length < depth) :
    w'.Sent (w'.sendNow (respond user depth) p .start ⟨.flush, w.newPromise.1⟩) p l wire
      w.newPromise.1 load := by
  refine sendNow_sent user _ depth w' .start rfl h ?_ ?_ ?_
  · exact (promise_congr hpromises _).trans (promise_newPromise w)
  · rw [hpromises, World.newPromise, List.length_append]
    exact Nat.lt_succ_self _
  · refine Nat.lt_of_le_of_lt (length_targets_le _ _ _) ?_
    rw [List.length_reverse]
    exact Nat.lt_of_le_of_lt h.relays.hosts.length_le hdepth

/-- A message that is written comes to the transport of the channel, if there is one. Without one
    the write fails. -/
theorem Calm.write (h : w.Calm p) (players : Players σ) (hdepth : w.contexts.length < depth)
    (msg : Message)
    (hroom : ∀ t, ((w.transport t).outbound.bytes.content ++ msg.loose).length ≤
      Capacity.defaultMax) :
    let written := w.write (respond players.play depth) p msg
    w.Passed written.2 p [msg] ∧
      (written.2.promise written.1).outcome = some (verdict (w.berth p) ⟨.flush, written.1⟩) := by
  intro written
  have hcalm₀ := h.newPromise
  have hwithin := halt_within (w.roster p) p
  obtain ⟨entry, hentry⟩ : ∃ entry, entry =
      (Roster.targets (w.roster p).reverse .start .flush).halt p := ⟨_, rfl⟩
  rw [← hentry] at hwithin
  have hput : ((w.newPromise.2.container entry).add msg).Holds msg.loose msg.queued := by
    have hfits := hroom 0
    rw [List.length_append] at hfits
    exact (hcalm₀.empty entry hwithin).put msg (Nat.le_trans (Nat.le_add_left _ _) hfits)
  obtain ⟨w₁, hw₁⟩ : ∃ w₁, w₁ =
      w.newPromise.2.setContainer entry ((w.newPromise.2.container entry).add msg) := ⟨_, rfl⟩
  have hbears : w₁.Bears p (w.roster p) (w.berth p) entry ⟨msg.loose, msg.queued⟩ :=
    hw₁ ▸ hcalm₀.bears hentry hput hroom
  have hbare : w₁.bare = w.newPromise.2.bare := hw₁ ▸ bare_setContainer _ entry _
  have hlen : w₁.contexts.length < depth := by
    have hcontexts := congrArg (fun w => w.contexts.length) hbare
    simp only [bare, List.length_map] at hcontexts
    rw [hcontexts]
    exact hdepth
  -- Nothing happens but that the message is put there, and flushed.
  have hwritten : written.2 =
      w₁.sendNow (respond players.play depth) p .start ⟨.flush, w.newPromise.1⟩ := by
    have hexecute : written.2 = w.newPromise.2.runJob (respond players.play depth) p
        (.write .start msg w.newPromise.1) := hcalm₀.relays.ready.execute _ _
    rw [hexecute, runJob, hcalm₀.outboundTarget, hw₁, hentry]
    rfl
  rw [hentry] at hbears
  have hsent := hbears.sendNow players.play (congrArg World.promises hbare :) hlen
  rw [← hwritten] at hsent
  have hfrom : w.Sent written.2 p (w.roster p) (w.berth p) w.newPromise.1
      ⟨msg.loose, msg.queued⟩ := by
    refine hsent.from ((rigging_of_bare hbare).trans rfl) fun t => ?_
    rw [hw₁, transport_setContainer]
    rfl
  -- That the world is sound afterwards does not depend on the handlers, so it is known already.
  have hlineage := lineage_abides.endures.enact (respond_lineage players depth) w (.write p msg)
  refine ⟨h.passed (f := w.newPromise.1) (hlineage h.sound).sound ?_, hfrom.outcome⟩
  rw [List.flatMap_singleton, List.flatMap_singleton]
  exact hfrom

/-- A flush without a message finds nothing. -/
theorem Calm.flush (h : w.Calm p) (players : Players σ) (hdepth : w.contexts.length < depth)
    (hroom : ∀ t, (w.transport t).outbound.bytes.content.length ≤ Capacity.defaultMax) :
    w.Passed (w.request (respond players.play depth) p .flush).2 p [] := by
  have hcalm₀ := h.newPromise
  have hwithin := halt_within (w.roster p) p
  -- Nothing waits anywhere, so it is an empty load that is borne to the sink.
  have hbears : w.newPromise.2.Bears p (w.roster p) (w.berth p)
      ((Roster.targets (w.roster p).reverse .start .flush).halt p) {} := by
    refine ⟨hcalm₀.relays, hcalm₀.empty _ hwithin, fun place hplace _ => hcalm₀.empty place hplace,
      fun t _ => h.kept t, Nat.zero_le _, fun t _ => ?_⟩
    rw [List.append_nil]
    exact hroom t
  have hsent := hbears.sendNow (w := w) players.play rfl hdepth
  have hflush : (w.request (respond players.play depth) p .flush).2 =
      w.newPromise.2.sendNow (respond players.play depth) p .start ⟨.flush, w.newPromise.1⟩ :=
    hcalm₀.relays.ready.execute _ _
  have hlineage :=
    lineage_abides.endures.enact (respond_lineage players depth) w (.request p .flush)
  refine h.passed (f := w.newPromise.1) (hlineage h.sound).sound ?_
  rw [hflush]
  exact hsent.from rfl fun _ => rfl

end Calls

end World

end Conduit
