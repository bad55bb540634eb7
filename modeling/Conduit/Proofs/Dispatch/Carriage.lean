import Conduit.Proofs.Dispatch.Flush
import Conduit.Proofs.Dispatch.Sink
import Conduit.Proofs.World.Inert
import Conduit.Proofs.World.Route

/-!
# Carried to the End

What becomes of data that is flushed through handlers which do nothing of their own. Each
of them hands the data on and the flush after it, so the data is always in one place, which
is where the flush comes to next. All other places are empty, and that is why nothing else
is ever picked up on the way. At the end the sink takes the data over or drops it, and then
that place is empty too.

The induction is on the members that are still to be passed, for each of which the calls
are nested one level deeper. It is the same whether there is a channel at the end or not,
which only the sink can tell.

The events that report how a channel comes to life carry no data. When they have passed such
handlers, all that is left of them is a notice.

## Main definitions

* `Place.Within`: The places of a pipeline.
* `World.Relays`: A pipeline of inert handlers.
* `World.Bears`: Where the data is.
* `World.Sent`: What has become of it.

## Theorems

* `Container.Holds.eq_nil`: What holds something is not empty.
* `Relays.of_rigging`, `Relays.hold`, `Relays.has`: A pipeline that can carry data.
* `Bears.hold`: What is held makes no difference.
* `transport_forwardOutbound`: Transports are left alone on the way.
* `halt_after`: The place after a member is another one, and one of the pipeline.
* `Bears.forward`: A member hands it on.
* `Sent.of_forward`, `Sent.from`: Where it was sent from makes no difference.
* `Bears.cleared`, `Bears.sent_refused`, `Bears.sent_flushed`: What is left when it is gone.
* `sinkRequest_sent`: It comes to the sink.
* `sendNow_sent`: It is carried to the end.
* `fireNow_quiet`: An event without data.
-/

namespace Conduit

open Roster

/-- A place where data waits for a member of a pipeline, or for its sink. -/
def Place.Within (p : PipelineId) (l : Roster) : Place → Prop
  | .inbound c | .outbound c => c ∈ ids l
  | .sink q => q = p
  | .tail _ | .nowhere => False

/-- The place where data comes to that is still to pass some members. -/
def Roster.halt (p : PipelineId) : Roster → Place
  | [] => .sink p
  | m :: _ => .outbound m.id

/-- What holds something is not empty. -/
theorem Container.Holds.eq_nil {c : Container} {bytes : Bytes} {msgs : List Message}
    (h : c.Holds bytes msgs) (hempty : c.isEmpty = true) : bytes = [] ∧ msgs = [] := by
  rw [Container.isEmpty, Bool.and_eq_true, h.messages, Bool.not_eq_true',
    Sealed.isReadable_eq_false_iff h.bytes.sound, h.bytes.content] at hempty
  exact ⟨hempty.2, List.isEmpty_iff.mp hempty.1⟩

namespace World

variable {σ : Type} {w w' : World σ} {p : PipelineId} {l ms : Roster} {m : Member}
  {wire : Option TransportId} {here : Place} {load : Load} {f : PromiseId} {cursor : Cursor}

/-- A pipeline of inert handlers, attached to the transport of an embedded channel or to
    nothing. -/
structure Relays (w : World σ) (p : PipelineId) (l : Roster) (wire : Option TransportId) :
    Prop where
  hosts : w.Hosts p l
  ready : w.Ready p
  known : p < w.pipelines.length
  inert : ∀ m ∈ l, (w.context m.id).handler.IsInert
  sink : w.sinkOf p = wire.elim .discarding .embedded
  wired : ∀ t, wire = some t → t < w.transports.length

/-- The data that is in such a pipeline is all in one place, and there is room for it where it
    is to go. -/
structure Bears (w : World σ) (p : PipelineId) (l : Roster) (wire : Option TransportId)
    (here : Place) (load : Load) : Prop where
  relays : w.Relays p l wire
  held : (w.container here).Holds load.bytes load.messages
  empty : ∀ place : Place, place.Within p l → place ≠ here → (w.container place).Holds [] []
  kept : ∀ t, wire = some t → (w.transport t).outbound.Holds
    (w.transport t).outbound.bytes.content (w.transport t).outbound.messages
  fits : load.bytes.length ≤ Capacity.defaultMax
  room : ∀ t, wire = some t →
    ((w.transport t).outbound.bytes.content ++ load.bytes).length ≤ Capacity.defaultMax

/-- Data was flushed to the end: the transport has it, if there is one, and nothing is left in
    the pipeline. -/
structure Sent (w w' : World σ) (p : PipelineId) (l : Roster) (wire : Option TransportId)
    (f : PromiseId) (load : Load) : Prop where
  rigging : w'.rigging = w.rigging
  outcome : (w'.promise f).outcome = some (verdict wire ⟨.flush, f⟩)
  empty : ∀ place : Place, place.Within p l → (w'.container place).Holds [] []
  taken : ∀ t, wire = some t →
    (w'.transport t).outbound.Holds ((w.transport t).outbound.bytes.content ++ load.bytes)
      ((w.transport t).outbound.messages ++ load.messages)
  inbound : ∀ t, (w'.transport t).inbound = (w.transport t).inbound
  others : ∀ t, wire ≠ some t → (w'.transport t).outbound = (w.transport t).outbound

theorem Relays.of_rigging (h : w.Relays p l wire) (hrig : w'.rigging = w.rigging) :
    w'.Relays p l wire := by
  have hpipe : w'.pipelines.map Pipeline.bare = w.pipelines.map Pipeline.bare :=
    congrArg World.pipelines hrig
  have hctx : w'.contexts.map Context.bare = w.contexts.map Context.bare :=
    congrArg World.contexts hrig
  have hthread : w'.inQueueThread = w.inQueueThread := (congrArg World.inQueueThread hrig :)
  have hkept : w'.isKept p = w.isKept p := (congrArg (fun w => w.isKept p) hrig :)
  have hpipelines := congrArg List.length hpipe
  have htransports := congrArg (fun w => w.transports.length) hrig
  simp only [rigging, bare, List.length_map] at hpipelines htransports
  exact {
    hosts := h.hosts.congr (chain_congr hpipe p) hctx
    ready := h.ready.congr (loopOf_congr hpipe p) hthread (hkept.trans h.ready.kept)
    known := hpipelines ▸ h.known
    inert := fun m hm => by
      rw [context_congr (f := Context.handler) (fun _ => rfl) hctx m.id]
      exact h.inert m hm
    sink := by
      rw [sinkOf, attachment_congr hpipe]
      exact h.sink
    wired := fun t ht => htransports ▸ h.wired t ht }

theorem Relays.hold (h : w.Relays p l wire) : (w.hold (.pipeline p)).Relays p l wire where
  hosts := h.hosts.congr rfl rfl
  ready := h.ready.congr rfl rfl (isKept_hold w p)
  known := h.known
  inert := h.inert
  sink := h.sink
  wired := h.wired

theorem Relays.has (h : w.Relays p l wire) {place : Place} (hplace : place.Within p l) :
    w.Has place := by
  cases place with
  | inbound c | outbound c =>
      rcases mem_ids.mp hplace with ⟨m, hm, rfl⟩
      exact h.hosts.known m hm
  | sink q =>
      change q = p at hplace
      exact hplace ▸ h.known
  | tail q | nowhere => exact absurd hplace id

theorem Bears.hold (h : w.Bears p l wire here load) :
    (w.hold (.pipeline p)).Bears p l wire here load :=
  ⟨h.relays.hold, h.held, h.empty, h.kept, h.fits, h.room⟩

/-! ### On the way -/

theorem transport_forwardOutbound (w : World σ) (c : ContextId) (t : TransportId) :
    (w.forwardOutbound c).transport t = w.transport t := by
  rw [forwardOutbound]
  by_cases hempty : (w.container (.outbound c)).isEmpty = true
  · rw [if_pos hempty]
  · rw [if_neg hempty, transport_moveAll]

/-- The place after a member is another one, and one of the pipeline. -/
theorem halt_after (hnd : (ids l.reverse).Nodup)
    (htargets : Roster.targets l.reverse cursor .flush = m :: ms) :
    (ms.halt p).Within p l ∧ ms.halt p ≠ .outbound m.id := by
  have hsub : (m :: ms).Sublist l.reverse :=
    htargets ▸ List.filter_sublist.trans (ahead_suffix l.reverse cursor).sublist
  cases ms with
  | nil => exact ⟨rfl, fun he => by cases he⟩
  | cons n ms =>
      have hn : n ∈ l.reverse := hsub.subset (List.mem_cons_of_mem m List.mem_cons_self)
      refine ⟨mem_ids.mpr ⟨n, List.mem_reverse.mp hn, rfl⟩, fun he => ?_⟩
      -- Otherwise one member would be passed twice.
      have hids : (ids (m :: n :: ms)).Nodup := hnd.sublist (hsub.map _)
      have hid : n.id = m.id := Place.outbound.inj he
      rw [ids_cons, ids_cons, hid] at hids
      exact (List.nodup_cons.mp hids).1 List.mem_cons_self

/-- A member hands on what waits for it. -/
theorem Bears.forward (h : w.Bears p l wire (.outbound m.id) load)
    (htargets : Roster.targets l.reverse cursor .flush = m :: ms) :
    (w.forwardOutbound m.id).Bears p l wire (ms.halt p) load := by
  have hnd := ids_nodup_reverse.mpr h.relays.hosts.holds.linked.ids_nodup
  rcases targets_cons hnd htargets with ⟨hm, -, hafter, -, -⟩
  have hm : m ∈ l := List.mem_reverse.mp hm
  rcases halt_after (p := p) hnd htargets with ⟨hwithin, hne⟩
  have hnext : w.nextOutbound m.id = ms.halt p := by
    have htarget := (h.relays.hosts.next_eq h.relays.ready hm .outbound).trans
      (h.relays.hosts.target_eq .outbound (.after m.id))
    change w.nextOutbound m.id = (Roster.targets l.reverse (.after m.id) .flush).head?.elim
      (.sink p) fun m => .outbound m.id at htarget
    rw [hafter] at htarget
    rw [htarget]
    cases ms <;> rfl
  have hthere := h.empty _ hwithin hne
  have hhas : w.Has (.outbound m.id) := h.relays.hosts.known m hm
  have hrelays := h.relays.of_rigging (rigging_of_bare (bare_forwardOutbound w m.id))
  have hkept : ∀ t, (w.forwardOutbound m.id).transport t = w.transport t :=
    transport_forwardOutbound w m.id
  -- What waits is moved on, or nothing waits and nothing is moved.
  by_cases hempty : (w.container (.outbound m.id)).isEmpty = true
  · have hsame : w.forwardOutbound m.id = w := by rw [forwardOutbound, if_pos hempty]
    have hheld := h.held
    rw [(h.held.eq_nil hempty).1, (h.held.eq_nil hempty).2] at hheld
    rw [hsame]
    refine ⟨h.relays, ?_, fun place hplace _ => ?_, h.kept, h.fits, h.room⟩
    · rw [(h.held.eq_nil hempty).1, (h.held.eq_nil hempty).2]
      exact hthere
    · by_cases hhere : place = .outbound m.id
      · rw [hhere]
        exact hheld
      · exact h.empty place hplace hhere
  · rcases h.held.transferTo hthere h.fits with ⟨left, filled, htransfer, hleft, hfilled⟩
    have hmoved : w.forwardOutbound m.id =
        (w.setContainer (.outbound m.id) left).setContainer (ms.halt p) filled := by
      rw [forwardOutbound, if_neg hempty, hnext, moveAll, htransfer]
    refine ⟨hrelays, ?_, fun place hplace hother => ?_, fun t ht => ?_, h.fits, fun t ht => ?_⟩
    · rw [hmoved, container_setContainer_self ((h.relays.has hwithin).setContainer _ _)]
      exact hfilled
    · rw [hmoved, container_setContainer_ne hother]
      by_cases hhere : place = .outbound m.id
      · rw [hhere, container_setContainer_self hhas]
        exact hleft
      · rw [container_setContainer_ne hhere]
        exact h.empty place hplace hhere
    · rw [hkept]
      exact h.kept t ht
    · rw [hkept]
      exact h.room t ht

/-- What is sent once it was handed on is sent, whatever was held in the meantime. -/
theorem Sent.of_forward {c : ContextId}
    (h : ((w.forwardOutbound c).hold (.pipeline p)).Sent w' p l wire f load) :
    w.Sent (w'.release (.pipeline p)) p l wire f load where
  rigging := by
    change w'.rigging.release (.pipeline p) = w.rigging
    rw [h.rigging]
    exact (release_hold (w.forwardOutbound c).rigging _).trans
      (rigging_of_bare (bare_forwardOutbound w c))
  outcome := h.outcome
  empty := fun place hplace => by
    have hempty := h.empty place hplace
    cases place <;> exact hempty
  taken := fun t ht => transport_forwardOutbound w c t ▸ h.taken t ht
  inbound := fun t => transport_forwardOutbound w c t ▸ h.inbound t
  others := fun t ht => transport_forwardOutbound w c t ▸ h.others t ht

/-- What is sent from a world that differs in nothing but data in the pipeline and promises. -/
theorem Sent.from {w₀ : World σ}
    (h : w₀.Sent w' p l wire f load) (hrig : w₀.rigging = w.rigging)
    (htransports : ∀ t, w₀.transport t = w.transport t) : w.Sent w' p l wire f load where
  rigging := h.rigging.trans hrig
  outcome := h.outcome
  empty := h.empty
  taken := fun t ht => htransports t ▸ h.taken t ht
  inbound := fun t => htransports t ▸ h.inbound t
  others := fun t ht => htransports t ▸ h.others t ht

/-! ### At the sink -/

/-- Nothing waits anywhere when what waits for the sink is gone. -/
theorem Bears.cleared (h : w.Bears p l wire (.sink p) load) {emptied : Container}
    (hemptied : emptied.Holds [] []) {place : Place} (hplace : place.Within p l) :
    ((w.setContainer (.sink p) emptied).container place).Holds [] [] := by
  by_cases hhere : place = .sink p
  · have hhas : w.Has (.sink p) := h.relays.known
    rw [hhere, container_setContainer_self hhas]
    exact hemptied
  · rw [container_setContainer_ne hhere]
    exact h.empty place hplace hhere

/-- Without a channel, data is dropped. -/
theorem Bears.sent_refused [Journal σ] (h : w.Bears p l none (.sink p) load)
    (hf : f < w.promises.length) {emptied : Container} (hemptied : emptied.Holds [] []) :
    w.Sent (w.refused p f emptied) p l none f load where
  rigging := (rigging_of_bare (bare_setContainer w (.sink p) emptied) :)
  outcome := outcome_settled hf _
  empty := fun place hplace => by
    rw [container_refused]
    exact h.cleared hemptied hplace
  taken := fun t ht => by cases ht
  inbound := fun _ => rfl
  others := fun _ _ => rfl

/-- With one, its transport takes the data over. -/
theorem Bears.sent_flushed {t : TransportId} (h : w.Bears p l (some t) (.sink p) load)
    (hf : f < w.promises.length) {emptied kept : Container} (hemptied : emptied.Holds [] [])
    (hkept : kept.Holds ((w.transport t).outbound.bytes.content ++ load.bytes)
      ((w.transport t).outbound.messages ++ load.messages)) :
    w.Sent (w.flushed p t f emptied kept) p l (some t) f load := by
  have hself : (w.flushed p t f emptied kept).transport t =
      { w.transport t with sunk := (w.transport t).sunk ++ [.flush], outbound := kept } :=
    transport_updateTransport (h.relays.wired t rfl) _
  -- No other transport has anything to do with a flush.
  have hother : ∀ u, u ≠ t → (w.flushed p t f emptied kept).transport u = w.transport u := by
    intro u hu
    change ((w.transports.modify t _)[u]?).getD default = _
    rw [List.getElem?_modify_ne _ _ (Ne.symm hu), transport]
  exact {
    rigging := (rigging_updateTransport (w.setContainer (.sink p) emptied) t _).trans
      (rigging_of_bare (bare_setContainer w _ emptied))
    outcome := outcome_settled hf _
    empty := fun place hplace => by
      rw [container_flushed]
      exact h.cleared hemptied hplace
    taken := fun u hu => by
      cases hu
      rw [hself]
      exact hkept
    inbound := fun u => by
      by_cases hu : u = t
      · rw [hu, hself]
      · rw [hother u hu]
    others := fun u hu => by
      rw [hother u fun he => hu (he ▸ rfl)] }

/-! ### To the end -/

section Sending

variable [Journal σ] (user : Caller σ → Caller σ)

/-- The sink takes over what waits for it, or drops it. -/
theorem sinkRequest_sent (h : w.Bears p l wire (.sink p) load) (hnew : w.promise f = {})
    (hf : f < w.promises.length) (depth : Nat) :
    w.Sent (w.sinkRequest (respond user (depth + 1)) p ⟨.flush, f⟩) p l wire f load := by
  cases wire with
  | none =>
      rcases sinkRequest_refuse h.relays.sink h.held hnew user depth with
        ⟨emptied, hemptied, hrequest⟩
      rw [hrequest]
      exact h.sent_refused hf hemptied
  | some t =>
      rcases sinkRequest_flush h.relays.sink (h.relays.wired t rfl) h.held (h.kept t rfl)
        (h.room t rfl) hnew user depth with ⟨emptied, kept, hemptied, hkept, hrequest⟩
      rw [hrequest]
      exact h.sent_flushed hf hemptied hkept

/-- Data is carried to the end by the flush that comes with it. -/
theorem sendNow_sent : ∀ (ms : Roster) (depth : Nat) (w : World σ) (cursor : Cursor),
    Roster.targets l.reverse cursor .flush = ms → w.Bears p l wire (ms.halt p) load →
    w.promise f = {} → f < w.promises.length → ms.length < depth →
    w.Sent (w.sendNow (respond user depth) p cursor ⟨.flush, f⟩) p l wire f load := by
  intro ms
  induction ms with
  | nil =>
      intro depth w cursor htargets h hnew hf hdepth
      cases depth with
      | zero => exact absurd hdepth (Nat.not_lt_zero _)
      | succ d =>
          rw [h.relays.hosts.sendNow_none rfl htargets]
          exact sinkRequest_sent user h hnew hf d
  | cons m ms ih =>
      intro depth w cursor htargets h hnew hf hdepth
      cases depth with
      | zero => exact absurd hdepth (Nat.not_lt_zero _)
      | succ d =>
          have hnd := ids_nodup_reverse.mpr h.relays.hosts.holds.linked.ids_nodup
          rcases targets_cons hnd htargets with ⟨hm, -, hafter, -, -⟩
          have hm : m ∈ l := List.mem_reverse.mp hm
          have hcall : respond user (d + 1) (.handler m.id (.outbound ⟨.flush, f⟩)) w = _ :=
            respond_inert user d (h.relays.inert m hm) fun event he => by cases he
          have hforward := Bears.forward h htargets
          have hrelays := hforward.relays
          have hpromises : (w.forwardOutbound m.id).promises = w.promises :=
            (congrArg World.promises (bare_forwardOutbound w m.id) :)
          have hdefault : w.byDefault (respond user d) m.id (.outbound ⟨.flush, f⟩) =
              (w.forwardOutbound m.id).requestWith (respond user d) m.id ⟨.flush, f⟩ := rfl
          rw [h.relays.hosts.sendNow_some rfl htargets hcall, hdefault,
            hrelays.hosts.requestWith_eq hrelays.ready hm]
          -- The flush goes on behind the data, one level down.
          refine Sent.of_forward
            (ih d _ _ hafter hforward.hold ?_ ?_ (Nat.lt_of_succ_lt_succ hdepth))
          · exact (promise_congr hpromises f).trans hnew
          · exact Nat.lt_of_lt_of_eq hf (congrArg List.length hpromises).symm

/-- An event that says only how far the channel has come to life leaves no trace but
    a notice. -/
theorem fireNow_quiet {event : InboundEvent}
    (hquiet : event = .channelOpen ∨ event = .channelActive) :
    ∀ (ms : Roster) (depth : Nat) (w : World σ) (cursor : Cursor), w.Hosts p l → w.Ready p →
      (∀ m ∈ l, (w.context m.id).handler.IsInert) → l.targets cursor event.kind = ms →
      ms.length ≤ depth →
      ∃ value, w.fireNow (respond user depth) p cursor event = w.setUser value := by
  intro ms
  induction ms with
  | nil =>
      intro depth w cursor hhosts hready hinert htargets _
      have hfind : (w.chain p).findInbound cursor event.kind = none := by
        rw [hhosts.findInbound event.kind_isInbound, htargets]
        rfl
      rw [fireNow_eq, dispatch, hfind]
      by_cases hstart : cursor = .start ∧ (w.chain p).hasInbound = false
      · rw [if_pos hstart]
        rcases hquiet with rfl | rfl <;> exact ⟨_, rfl⟩
      · rw [if_neg hstart]
        rcases hquiet with rfl | rfl <;> exact ⟨w.user, rfl⟩
  | cons m ms ih =>
      intro depth w cursor hhosts hready hinert htargets hdepth
      cases depth with
      | zero => exact absurd hdepth (Nat.not_succ_le_zero _)
      | succ d =>
          rcases targets_cons hhosts.holds.linked.ids_nodup htargets with ⟨hm, -, hafter, -, -⟩
          rw [fireNow_eq, hhosts.dispatch_some htargets, respond, answer, handlerCalled]
          rcases hinert m hm with hpassive | ⟨t, hcollector⟩
          · have hdefault : w.byDefault (respond user d) m.id (.inbound event) =
                w.fireFrom (respond user d) m.id event := by
              rcases hquiet with rfl | rfl <;> rfl
            have hheld : (w.hold (.pipeline p)).Ready p := hready.congr rfl rfl (isKept_hold w p)
            -- The handler passes the event on from behind itself, where one target less lies ahead.
            rcases ih d (w.hold (.pipeline p)) (.after m.id) (hhosts.congr rfl rfl) hheld hinert
              hafter (Nat.le_of_succ_le_succ hdepth) with ⟨value, hfire⟩
            rw [hpassive]
            dsimp only
            rw [hdefault, hhosts.fireFrom_eq hready hm, hfire]
            exact ⟨value, release_hold (w.setUser value) _⟩
          · rw [hcollector]
            rcases hquiet with rfl | rfl <;> exact ⟨w.user, rfl⟩

end Sending

end World

end Conduit
