import Conduit.Proofs.Dispatch.Outbound
import Conduit.Proofs.World.Route

/-!
# Handlers That Hand On

Handlers that do with the data they are given what the library would do for them, or
nothing. A `Porters` hands everything on and passes the event on too, or it hands the
data on and keeps the event to itself, or does nothing at all, or fails, before it has
handed anything on or after. Which of these it does may depend on the whole world and on
anything that it has kept for itself. What it never does is to touch the data.

Nothing is lost between such handlers. A handler that stops leaves the data where it is,
and whatever comes later comes behind it. A handler that fails does so too, although the
library then has the buffers in question throw away what was read of them, since nothing
was. And when calls are nested so deeply that one is refused, that is one more failure.

So it does not matter how far an event gets. Dispatch is an induction on depth once more,
but each call only has to keep up what `Conveying` says. What is done about a failure is
left open at first, as in the course of an event, and filled in twice.

## Main definitions

* `Errand`, `Porters`: What handlers do with data.
* `Porters.play`: Porters as a caller.
* `World.Handled`: What can be said after a call.

## Theorems

* `Handled.of_ok`: A call that has not failed need only have conveyed data.
* `bare_moveOn`: Moving data on changes nothing but data.
* `play_handled`, `call_handled`: A call of a handler.
* `Conveying.unheard`, `Conveying.fellOff`, `Conveying.collect`: Where nobody but the
  collector is called.
* `Conveying.dispatch`: An event is conveyed if the call of its target is.
* `raise_conveyed`, `reportFailure_conveyed`: The report of a failure.
* `fireNow_conveyed_of`, `fireNow_conveyed`: An inbound event.
* `Conveying.perform_flush`, `sinkRequest_conveyed`: A flush at the sink.
* `Conveying.sendNow`, `sendNow_conveyed`: A flush.
-/

namespace Conduit

open Roster

/-- What a handler does with an event and the data that comes with it. -/
structure Errand where
  /-- Before anything else, the data is moved on to the next place. -/
  movesOn : Bool
  reaction : Reaction
  deriving Inhabited

/-- How handlers react to a call, and what the user keeps of it. -/
abbrev Porters (σ : Type) := ContextId → Callback → World σ → Errand × σ

namespace World

variable {σ : Type}

/-- Moves the data that comes with a call on to the next place. -/
def moveOn (w : World σ) (c : ContextId) : Callback → World σ
  | .inbound .messageUpdated => w.forward .inbound c
  | .outbound ⟨.flush, _⟩ => w.forward .outbound c
  | _ => w

end World

/-- Porters as the user's part of a caller. A panic counts as an error. -/
def Porters.play {σ : Type} [Journal σ] (porters : Porters σ) (call : Caller σ) : Caller σ
  | .handler c callback, w =>
    let (errand, user) := porters c callback w
    let later := w.setUser user
    let later := if errand.movesOn then later.moveOn c callback else later
    match errand.reaction with
    | .proceed => (.ok (), later.byDefault call c callback)
    | .stop => (.ok (), later)
    | .fail cause => (.error cause, later)
    | .panic payload => (.error (.ofPanic payload), later)
  | _, w => (.ok (), w)

namespace World

variable {σ : Type} {w w' : World σ} {p : PipelineId} {l : Roster} {x m : Member}
  {t : TransportId} {load : Side → Load}

/-- After a call data was conveyed, and if the call has failed no promise was touched. -/
structure Handled (w : World σ) (p : PipelineId) (l : Roster) (x : Member) (t : TransportId)
    (load : Side → Load) (answer : Outcome × World σ) : Prop where
  conveyed : w.Conveyed answer.2 p l x t load
  promises : ∀ cause, answer.1 = .error cause → answer.2.promises = w.promises

/-- A call that has not failed need only have conveyed data. -/
theorem Handled.of_ok (h : w.Conveyed w' p l x t load) : w.Handled p l x t load (.ok (), w') :=
  ⟨h, fun _ he => nomatch he⟩

theorem bare_moveOn (w : World σ) (c : ContextId) (callback : Callback) :
    (w.moveOn c callback).bare = w.bare := by
  rcases callback with hook | event | ⟨action, f⟩
  · rfl
  · cases event <;> first | rfl | exact bare_forwardInbound w c
  · cases action <;> first | rfl | exact bare_forwardOutbound w c

section Calls

variable [Journal σ] (porters : Porters σ)

/-- A call that a handler answers, given what comes of moving data on and of the default. -/
theorem play_handled (call : Caller σ) {c : ContextId} {callback : Callback}
    (h : w.Conveying p l x t load)
    (hmove : ∀ w' : World σ, w'.Conveying p l x t load →
      w'.Conveyed (w'.moveOn c callback) p l x t load)
    (hdefault : ∀ w' : World σ, w'.Conveying p l x t load → w'.promises = w.promises →
      w'.Conveyed (w'.byDefault call c callback) p l x t load) :
    w.Handled p l x t load (porters.play call (.handler c callback) w) := by
  obtain ⟨errand, user, hchoice⟩ : ∃ errand user, porters c callback w = (errand, user) :=
    ⟨_, _, rfl⟩
  -- Between the choice and the reaction is a world in which data may have been moved on.
  obtain ⟨later, hlater⟩ : ∃ later, later =
      if errand.movesOn then (w.setUser user).moveOn c callback else w.setUser user := ⟨_, rfl⟩
  have huser := h.setUser user
  -- Whether or not data was moved on first, the promises are still what they were.
  have hconveyed : w.Conveyed later p l x t load ∧ later.promises = w.promises := by
    rw [hlater]
    by_cases hmoves : errand.movesOn = true
    · rw [if_pos hmoves]
      have hbare := congrArg World.promises (bare_moveOn (w.setUser user) c callback)
      exact ⟨huser.trans (hmove _ huser.conveying), hbare⟩
    · rw [if_neg hmoves]
      exact ⟨huser, rfl⟩
  rw [Porters.play, hchoice]
  dsimp only
  rw [← hlater]
  cases errand.reaction with
  | proceed =>
      have hpassed := hdefault later hconveyed.1.conveying hconveyed.2
      exact .of_ok (hconveyed.1.trans hpassed)
  | stop | fail cause | panic payload => exact ⟨hconveyed.1, fun _ _ => hconveyed.2⟩

/-- A call of a member other than the collector. -/
theorem call_handled (depth : Nat) {callback : Callback} (h : w.Conveying p l x t load)
    (hm : m ∈ l) (hx : m ≠ x)
    (hmove : ∀ w' : World σ, w'.Conveying p l x t load →
      w'.Conveyed (w'.moveOn m.id callback) p l x t load)
    (hdefault : ∀ w' : World σ, w'.Conveying p l x t load → w'.promises = w.promises →
      w'.Conveyed (w'.byDefault (respond porters.play depth) m.id callback) p l x t load) :
    w.Handled p l x t load (respond porters.play (depth + 1) (.handler m.id callback) w) := by
  rcases h.rigged.plain m hm hx with hpassive | ⟨tag, htag⟩
  · rw [respond, answer, handlerCalled, hpassive]
    exact .of_ok (hdefault w h rfl)
  · rw [respond_user htag]
    exact play_handled porters _ h hmove hdefault

/-! ### Inbound -/

/-- An event without a target moves nothing that is on the way. -/
theorem Conveying.unheard (h : w.Conveying p l x t load) (kind : EventKind) :
    w.Conveyed (w.unheard p kind) p l x t load := by
  have hnotice := h.notice (.noInboundHandlers kind)
  rw [World.unheard]
  by_cases hkind : kind = .messageUpdated
  · rw [if_pos hkind]
    exact hnotice.trans (hnotice.conveying.setTail _)
  · rw [if_neg hkind]
    exact hnotice

theorem Conveying.fellOff (h : w.Conveying p l x t load) (event : InboundEvent) :
    w.Conveyed (w.fellOff p event) p l x t load := by
  cases event with
  | exceptionCaught cause => exact h.notice _
  | messageUpdated =>
      rw [World.fellOff]
      by_cases hempty : (w.container (.tail p)).isEmpty = true
      · rw [if_pos hempty]
        exact h.refl
      · rw [if_neg hempty]
        obtain ⟨tail, htail⟩ : ∃ tail, tail = w.container (.tail p) := ⟨_, rfl⟩
        rw [← htail]
        have hnotice := h.notice (.tailDiscarded tail.bytes.readableBytes tail.length)
        exact hnotice.trans (hnotice.conveying.setTail _)
  | channelOpen | channelActive | channelInactive | userEventTriggered _ => exact h.refl

/-- An event is conveyed if the call of its target is, and what is done if that fails. -/
theorem Conveying.dispatch (h : w.Conveying p l x t load) (call : Caller σ) (cursor : Cursor)
    (event : InboundEvent) (failed : ContextId → Error → World σ → World σ)
    (hcall : ∀ m ms, l.targets cursor event.kind = m :: ms →
      w.Handled p l x t load (call (.handler m.id (.inbound event)) w))
    (hfail : ∀ m ms cause, l.targets cursor event.kind = m :: ms → ∀ w' : World σ,
      w'.Conveying p l x t load → w'.Conveyed (failed m.id cause w') p l x t load) :
    w.Conveyed (w.dispatch call p cursor event failed) p l x t load := by
  cases htargets : l.targets cursor event.kind with
  | nil =>
      have hfind : (w.chain p).findInbound cursor event.kind = none := by
        rw [h.rigged.hosts.findInbound event.kind_isInbound, htargets]
        rfl
      rw [World.dispatch, hfind]
      by_cases hstart : cursor = .start ∧ (w.chain p).hasInbound = false
      · rw [if_pos hstart]
        exact h.unheard event.kind
      · rw [if_neg hstart]
        exact h.fellOff event
  | cons m ms =>
      -- Whether the target fails or not, it has left the load on its way.
      have hhandled := hcall m ms htargets
      rw [h.rigged.hosts.dispatch_some htargets]
      rcases hanswer : call (.handler m.id (.inbound event)) w with ⟨outcome, w'⟩
      rw [hanswer] at hhandled
      cases outcome with
      | ok _ => exact hhandled.conveyed
      | error cause =>
          exact hhandled.conveyed.trans (hfail m ms cause htargets w' hhandled.conveyed.conveying)

omit [Journal σ] in
/-- A collector takes what waits for it. -/
theorem Conveying.collect (h : w.Conveying p l x t load) (event : InboundEvent) :
    w.Conveyed (w.collect x.id t event) p l x t load := by
  cases event with
  | channelOpen | channelActive | channelInactive => exact h.refl
  | exceptionCaught cause => exact h.updateTransport fun _ side => by cases side <;> rfl
  | userEventTriggered msg => exact h.updateTransport fun _ side => by cases side <;> rfl
  | messageUpdated => exact h.deliver .inbound

/-- An inbound event is conveyed, if that is so for what is done about a failure. -/
theorem fireNow_conveyed_of (event : InboundEvent)
    (hfail : ∀ (depth : Nat) (cursor : Cursor) (m : Member) (ms : Roster) (cause : Error)
      (w : World σ), l.targets cursor event.kind = m :: ms → w.Conveying p l x t load →
      w.Conveyed (onFailure (respond porters.play depth) p event m.id cause w) p l x t load) :
    ∀ (depth : Nat) (w : World σ) (cursor : Cursor), w.Conveying p l x t load →
      w.Conveyed (w.fireNow (respond porters.play depth) p cursor event) p l x t load := by
  intro depth
  induction depth with
  | zero =>
      intro w cursor h
      rw [fireNow_eq]
      -- Whoever is called refuses.
      exact h.dispatch _ _ _ _ (fun _ _ _ => ⟨h.refl, fun _ _ => rfl⟩)
        fun m ms cause hsome w' h' => hfail 0 cursor m ms cause w' hsome h'
  | succ depth ih =>
      intro w cursor h
      rw [fireNow_eq]
      refine h.dispatch _ _ _ _ (fun m ms hsome => ?_)
        fun m ms cause hsome w' h' => hfail (depth + 1) cursor m ms cause w' hsome h'
      have hnd := h.rigged.hosts.holds.linked.ids_nodup
      rcases targets_cons hnd hsome with ⟨hm, -, -, -, -⟩
      by_cases hx : m = x
      · subst hx
        rw [respond_collector h.rigged.collector]
        exact .of_ok (h.collect event)
      · have hmove : ∀ w' : World σ, w'.Conveying p l x t load →
            w'.Conveyed (w'.moveOn m.id (.inbound event)) p l x t load := by
          intro w' h'
          cases event with
          | messageUpdated =>
              have hmem : m ∈ Side.inbound.stops l := Side.mem_stops_of_targets hsome
              exact h'.forward hmem fun _ => hx
          | _ => exact h'.refl
        refine call_handled porters depth h hm hx hmove fun w' h' _ => ?_
        -- By default the event is passed on behind the data, one level down.
        have hmoved := hmove w' h'
        have hdefault : w'.byDefault (respond porters.play depth) m.id (.inbound event) =
            (w'.moveOn m.id (.inbound event)).fireFrom (respond porters.play depth) m.id event := by
          cases event <;> rfl
        have hrigged := hmoved.conveying.rigged
        rw [hdefault, hrigged.hosts.fireFrom_eq hrigged.ready hm]
        exact hmoved.trans (Conveyed.release hrigged (ih _ _ hmoved.conveying.hold))

/-- That `exception_caught` comes to nothing is only noted. -/
theorem raise_conveyed (depth : Nat) (h : w.Conveying p l x t load) (cursor : Cursor)
    (cause : Error) :
    w.Conveyed (w.raise (respond porters.play depth) p cursor cause) p l x t load :=
  fireNow_conveyed_of porters (.exceptionCaught cause)
    (fun _ _ _ _ _ _ _ h' => h'.notice _) depth w cursor h

theorem reportFailure_conveyed (depth : Nat) (h : w.Conveying p l x t load) (c : ContextId)
    (kind : EventKind) (cause : Error) :
    w.Conveyed (w.reportFailure (respond porters.play depth) p c kind cause) p l x t load :=
  raise_conveyed porters depth h (.at c) (.handler kind (w.context c).name cause)

theorem fireNow_conveyed (depth : Nat) (h : w.Conveying p l x t load) (cursor : Cursor)
    (event : InboundEvent) :
    w.Conveyed (w.fireNow (respond porters.play depth) p cursor event) p l x t load := by
  refine fireNow_conveyed_of porters event ?_ depth w cursor h
  intro depth cursor m ms cause w hsome h
  cases event with
  | exceptionCaught _ => exact h.notice _
  | messageUpdated =>
      have hmem : m ∈ Side.inbound.stops l := Side.mem_stops_of_targets hsome
      have hdiscarded := h.discard (Side.place_mem_route (p := p) hmem)
      exact hdiscarded.trans
        (reportFailure_conveyed porters depth hdiscarded.conveying m.id .messageUpdated cause)
  | channelOpen => exact reportFailure_conveyed porters depth h m.id .channelOpen cause
  | channelActive => exact reportFailure_conveyed porters depth h m.id .channelActive cause
  | channelInactive => exact reportFailure_conveyed porters depth h m.id .channelInactive cause
  | userEventTriggered _ =>
      exact reportFailure_conveyed porters depth h m.id .userEventTriggered cause

/-! ### Outbound -/

/-- A transport takes what waits for it when it is flushed. -/
theorem Conveying.perform_flush (h : w.Conveying p l x t load) (call : Caller σ) {f : PromiseId}
    (hnew : w.promise f = {}) : w.Conveyed (w.perform call p t ⟨.flush, f⟩) p l x t load := by
  obtain ⟨w₁, hw₁⟩ : ∃ w₁, w₁ = w.updateTransport t fun y =>
      { y with sunk := y.sunk ++ [.flush] } := ⟨_, rfl⟩
  have hnoted : w.Conveyed w₁ p l x t load := by
    rw [hw₁]
    exact h.updateTransport fun _ side => by cases side <;> rfl
  -- What waits is handed over before the promise is kept.
  have hdelivered := hnoted.conveying.deliver .outbound
  have hpromise : (w₁.deliver (.sink p) t .outbound).promise f = {} := by
    rw [hw₁]
    exact hnew
  have hperform : w.perform call p t ⟨.flush, f⟩ =
      (w₁.deliver (.sink p) t .outbound).settled f (.ok ()) := by
    have hkeep := complete_new _ hpromise call (.ok ())
    rw [hw₁] at hkeep ⊢
    exact congrArg Prod.snd hkeep
  rw [hperform]
  exact (hnoted.trans hdelivered).trans (hdelivered.conveying.settled f (.ok ()))

/-- A flush at the sink. If calls are nested too deeply for it, it fails there. -/
theorem sinkRequest_conveyed (depth : Nat) (h : w.Conveying p l x t load) {f : PromiseId}
    (hnew : w.promise f = {}) :
    w.Conveyed (w.sinkRequest (respond porters.play depth) p ⟨.flush, f⟩) p l x t load := by
  cases depth with
  | succ depth =>
      rw [sinkRequest, h.rigged.sink, respond, answer, sinkCalled, carryOut]
      exact h.perform_flush _ hnew
  | zero =>
      have hsettled := h.settled f (.error tooDeep)
      have hnotice := hsettled.conveying.notice (.sinkFailed .flush tooDeep)
      have hraised := raise_conveyed porters 0 hnotice.conveying .start tooDeep
      have hkeep := complete_new w hnew (respond porters.play 0) (.error tooDeep)
      rw [sinkRequest, respond]
      dsimp only
      rw [hkeep]
      exact (hsettled.trans hnotice).trans hraised

/-- A flush is conveyed if the call of its target is. The promise is new, so nobody hears of it
    when it is broken. -/
theorem Conveying.sendNow (h : w.Conveying p l x t load) (depth : Nat) (cursor : Cursor)
    {f : PromiseId} (hnew : w.promise f = {})
    (hcall : ∀ m ms, Roster.targets l.reverse cursor .flush = m :: ms →
      w.Handled p l x t load
        (respond porters.play depth (.handler m.id (.outbound ⟨.flush, f⟩)) w)) :
    w.Conveyed (w.sendNow (respond porters.play depth) p cursor ⟨.flush, f⟩) p l x t load := by
  have hfind : (w.chain p).findOutbound cursor .flush =
      (Roster.targets l.reverse cursor .flush).head?.map (·.id) :=
    h.rigged.hosts.findOutbound rfl cursor
  cases htargets : Roster.targets l.reverse cursor .flush with
  | nil =>
      rw [h.rigged.hosts.sendNow_none rfl htargets]
      exact sinkRequest_conveyed porters depth h hnew
  | cons m ms =>
      have hhandled := hcall m ms htargets
      have hmem : m ∈ Side.outbound.stops l := Side.mem_stops_of_targets htargets
      rw [htargets] at hfind
      change (w.chain p).findOutbound cursor (Request.kind ⟨.flush, f⟩) = some m.id at hfind
      rw [World.sendNow, hfind]
      rcases hanswer : respond porters.play depth (.handler m.id (.outbound ⟨.flush, f⟩)) w with
        ⟨outcome, w'⟩
      rw [hanswer] at hhandled
      cases outcome with
      | ok _ =>
          dsimp only
          rw [hanswer]
          exact hhandled.conveyed
      | error cause =>
          obtain ⟨w₁, hw₁⟩ : ∃ w₁, w₁ =
              w'.updateContainer (.outbound m.id) (·.discardReadBytes) := ⟨_, rfl⟩
          have hcalled : w.Conveyed w' p l x t load := hhandled.conveyed
          have hdiscarded : w'.Conveyed w₁ p l x t load := by
            rw [hw₁]
            exact hcalled.conveying.discard (Side.place_mem_route (p := p) hmem)
          have hpromises : w₁.promises = w.promises := by
            have hbare : w₁.bare = w'.bare := hw₁ ▸ bare_updateContainer w' _ _
            have hsame : w₁.promises = w'.promises := (congrArg World.promises hbare :)
            exact hsame.trans (hhandled.promises cause rfl)
          -- The promise is new and was not kept by the handler, so breaking it calls nobody.
          have hkeep := complete_new w₁ ((promise_congr hpromises f).trans hnew)
            (respond porters.play depth) (.error cause)
          have hsettled := hdiscarded.conveying.settled f (.error cause)
          have hreported :=
            reportFailure_conveyed porters depth hsettled.conveying m.id .flush cause
          have hkind : Request.kind ⟨.flush, f⟩ = .flush := rfl
          dsimp only
          rw [hanswer]
          dsimp only
          rw [if_pos hkind, ← hw₁, hkeep]
          exact ((hcalled.trans hdiscarded).trans hsettled).trans hreported

theorem sendNow_conveyed :
    ∀ (depth : Nat) (w : World σ) (cursor : Cursor) (f : PromiseId), w.Conveying p l x t load →
      w.promise f = {} →
      w.Conveyed (w.sendNow (respond porters.play depth) p cursor ⟨.flush, f⟩) p l x t load := by
  intro depth
  induction depth with
  | zero =>
      intro w cursor f h hnew
      exact h.sendNow porters 0 cursor hnew fun _ _ _ => ⟨h.refl, fun _ _ => rfl⟩
  | succ depth ih =>
      intro w cursor f h hnew
      refine h.sendNow porters (depth + 1) cursor hnew fun m ms hsome => ?_
      have hmem : m ∈ Side.outbound.stops l := Side.mem_stops_of_targets hsome
      have hm := Side.mem_of_stops hmem
      have hx : m ≠ x := by
        -- The collector takes no part in this direction.
        rintro rfl
        have hout := h.rigged.hosts.handles_collector hm h.rigged.collector .flush
        exact absurd ((List.mem_filter.mp hmem).2.symm.trans hout) (by decide)
      have hmove : ∀ w' : World σ, w'.Conveying p l x t load →
          w'.Conveyed (w'.moveOn m.id (.outbound ⟨.flush, f⟩)) p l x t load :=
        fun w' h' => h'.forward hmem fun he => nomatch he
      refine call_handled porters depth h hm hx hmove fun w' h' hpromises => ?_
      -- By default the flush is passed on behind the data, one level down.
      have hmoved := hmove w' h'
      have hrigged := hmoved.conveying.rigged
      have hbare := congrArg World.promises (bare_moveOn w' m.id (.outbound ⟨.flush, f⟩))
      have hstill : (w'.moveOn m.id (.outbound ⟨.flush, f⟩)).promise f = {} :=
        (promise_congr (hbare.trans hpromises) f).trans hnew
      have hdefault : w'.byDefault (respond porters.play depth) m.id (.outbound ⟨.flush, f⟩) =
          (w'.moveOn m.id (.outbound ⟨.flush, f⟩)).requestWith (respond porters.play depth) m.id
            ⟨.flush, f⟩ := rfl
      rw [hdefault, hrigged.hosts.requestWith_eq hrigged.ready hm]
      exact hmoved.trans (Conveyed.release hrigged (ih _ _ f hmoved.conveying.hold hstill))

end Calls

end World

end Conduit
