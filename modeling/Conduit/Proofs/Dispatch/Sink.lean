import Conduit.Proofs.Dispatch.Inbound

/-!
# Requests at the Sink

What becomes of a request that no handler has kept from the sink. A sink settles
the promise of the request at once: an embedded transport carries every request
out, and the sink of a pipeline without a channel refuses it. Either way there is
a record that the sink has received the request, which is in the transport or, for
the refusing sink, in the notices.

Only hanging up has more to it. A transport that was still active is reported
inactive after its promise is kept, which is an inbound event among the same
handlers.

`Answered` says all that is seen of a request in the end, whether it got to the
sink or not, given the course it took among the handlers.

## Main definitions

* `World.Wired`: What a pipeline is attached to.
* `World.received`: The requests that the sink has received.
* `Answered`: What becomes of a request.

## Theorems

* `received_congr`, `hangsUp_congr`, `Wired.congr`: What only data differs in.
* `Staged.updateActivation`, `Staged.mark`: How far the channel has come to life.
* `inactiveNow_relay`: The report that a channel has become inactive.
* `answered_of_settled`: A request that the sink has received and settled.
* `refuse_answered`: A request without a channel.
* `received_noted`, `received_updateTransport`, `isActive_noted`: What a transport has noted.
* `hangUp_eq`, `hangUp_answered`, `perform_answered`: What a transport does.
* `sinkRequest_answered`: A request at the sink.
-/

namespace Conduit

open Roster

namespace World

variable {cast : Cast} {w w' : World Diary} {p : PipelineId} {l : Roster}
  {halts : ContextId → Bool} {wire : Option TransportId} {r : Request}

/-- A pipeline is attached to an embedded transport, or to nothing. -/
def Wired (w : World Diary) (p : PipelineId) : Option TransportId → Prop
  | none => (w.pipeline p).attachment = none
  | some t => t < w.transports.length ∧
      ∃ a, (w.pipeline p).attachment = some a ∧ a.sink = .embedded t

/-- The kinds of the requests that have reached the end of the outbound side. -/
def received (w : World Diary) : Option TransportId → List EventKind
  | none => w.user.refused
  | some t => (w.transport t).sunk

/-- A request ends the life of the transport that it reaches. -/
def hangsUp (w : World Diary) (wire : Option TransportId) (r : Request) : Bool :=
  match wire with
  | none => false
  | some t => (w.transport t).isActive && (r.kind = .disconnect || r.kind = .close)

/-- What the sink makes of a request. -/
def verdict (wire : Option TransportId) (r : Request) : Outcome :=
  match wire with
  | none => .error (.noHandler r.kind.name)
  | some _ => .ok ()

/-- What is seen of a request in the end, after it took a course among the handlers. -/
structure Answered (cast : Cast) (l : Roster) (halts : ContextId → Bool)
    (wire : Option TransportId) (r : Request) (course : List Called × Arrival)
    (w w' : World Diary) : Prop where
  calls : w'.user.calls =
    match course with
    | (calls, .stopped) => calls
    | (calls, .failed m cause) => report cast l halts r.kind calls m cause
    | (calls, .through) =>
      if w.hangsUp wire r then relay cast l halts .start .channelInactive calls else calls
  outcome : (w'.promise r.promise).outcome =
    match course.2 with
    | .stopped => none
    | .failed _ cause => some (.error cause)
    | .through => some (verdict wire r)
  received : w'.received wire =
    match course.2 with
    | .through => w.received wire ++ [r.kind]
    | _ => w.received wire

theorem received_congr (htransport : w'.transports.map Transport.bare =
      w.transports.map Transport.bare) (hrefused : w'.user.refused = w.user.refused)
    (wire : Option TransportId) : w'.received wire = w.received wire := by
  cases wire with
  | none => exact hrefused
  | some t => exact transport_congr (f := Transport.sunk) (fun _ => rfl) htransport t

theorem hangsUp_congr (htransport : w'.transports.map Transport.bare =
      w.transports.map Transport.bare) (wire : Option TransportId) (r : Request) :
    w'.hangsUp wire r = w.hangsUp wire r := by
  cases wire with
  | none => rfl
  | some t =>
      rw [hangsUp, hangsUp,
        transport_congr (f := Transport.isActive) (fun _ => rfl) htransport t]

theorem Wired.congr (h : w.Wired p wire)
    (hpipe : w'.pipelines.map Pipeline.bare = w.pipelines.map Pipeline.bare)
    (htransport : w'.transports.map Transport.bare = w.transports.map Transport.bare) :
    w'.Wired p wire := by
  cases wire with
  | none => exact (attachment_congr hpipe p).trans h
  | some t =>
      rcases h with ⟨ht, a, ha, hsink⟩
      have hlen := congrArg List.length htransport
      rw [List.length_map, List.length_map] at hlen
      exact ⟨hlen ▸ ht, a, (attachment_congr hpipe p).trans ha, hsink⟩

/-! ### Hanging up -/

theorem Staged.updateActivation (h : w.Staged p l halts) (f : Activation → Activation) :
    (w.updateActivation p f).Staged p l halts :=
  h.congr (chain_updateActivation w p p f) (loopOf_updateActivation w p p f) rfl rfl h.ready.kept

/-- What is taken down of a channel makes no difference to its pipeline. -/
theorem Staged.mark (h : w.Staged p l halts) (q : PipelineId) (m : Mark) :
    (w.mark q m).Staged p l halts :=
  h.congr rfl rfl rfl rfl h.ready.kept

/-- That a channel has become inactive is an event like any other. -/
theorem inactiveNow_relay (cast : Cast) (h : w.Staged p l halts) (depth : Nat)
    (hlen : l.length ≤ depth) :
    let w' := w.inactiveNow (respond cast.play depth) p
    w'.user.calls = relay cast l halts .start .channelInactive w.user.calls ∧
      w'.promises = w.promises ∧
      w'.transports.map Transport.bare = w.transports.map Transport.bare := by
  intro w'
  obtain ⟨w₁, hw₁⟩ : ∃ w₁, w₁ =
    (w.updateActivation p ({ · with active := false })).mark p (.started .deactivated) := ⟨_, rfl⟩
  have hstaged : w₁.Staged p l halts := hw₁ ▸ (h.updateActivation _).mark p _
  have hbare := fireNow_relay cast depth w₁ .start .channelInactive hstaged hlen
  have hparts := (parts_of_bare hbare).2
  have hcalls := calls_of_bare hbare
  rw [hw₁] at hparts hcalls
  exact ⟨hcalls, hparts⟩

/-! ### The two sinks -/

/-- A request that the sink has received and settled, in a world that is otherwise as it
    was for all that is seen of it. -/
theorem answered_of_settled {w₁ : World Diary} (hcalls : w₁.user.calls = w.user.calls)
    (hlen : r.promise < w₁.promises.length)
    (hreceived : w₁.received wire = w.received wire ++ [r.kind])
    (hstays : w.hangsUp wire r = false) :
    Answered cast l halts wire r (w.user.calls, .through) w
      (w₁.settled r.promise (verdict wire r)) where
  calls := by
    simp only [hstays]
    exact hcalls
  outcome := outcome_settled hlen _
  received := by
    rw [← hreceived]
    cases wire <;> rfl

theorem refuse_answered (cast : Cast) (l : Roster) (halts : ContextId → Bool)
    (hnew : w.promise r.promise = {}) (hlen : r.promise < w.promises.length)
    (call : Caller Diary) :
    ∃ w', w.refuse call p (.sunk r) = (.ok (), w') ∧
      Answered cast l halts none r (w.user.calls, .through) w w' := by
  have hkeep := complete_new ((w.updateContainer (.sink p) (·.clear)).notice (.notAttached r.kind))
    hnew call (.error (.noHandler r.kind.name))
  refine ⟨_, rfl, ?_⟩
  rw [hkeep]
  exact answered_of_settled rfl hlen rfl rfl

/-- The world after a request was written down as received. -/
def noted (w : World Diary) (t : TransportId) (kind : EventKind) : World Diary :=
  w.updateTransport t fun x => { x with sunk := x.sunk ++ [kind] }

/-- The world after a transport has ended its life. -/
def silenced (w : World Diary) (t : TransportId) : World Diary :=
  w.updateTransport t ({ · with isActive := false, isOpen := false })

theorem received_noted {t : TransportId} (ht : t < w.transports.length) (kind : EventKind) :
    (w.noted t kind).received (some t) = w.received (some t) ++ [kind] :=
  congrArg Transport.sunk (transport_updateTransport ht _)

/-- Whatever else a transport does with a request, it stays on record. -/
theorem received_updateTransport {t : TransportId} (ht : t < w.transports.length)
    {f : Transport → Transport} (hf : ∀ x, (f x).sunk = x.sunk) :
    (w.updateTransport t f).received (some t) = w.received (some t) := by
  rw [received, transport_updateTransport ht, hf]
  rfl

variable {t : TransportId}

theorem isActive_noted (ht : t < w.transports.length) (kind : EventKind) :
    ((w.noted t kind).transport t).isActive = (w.transport t).isActive := by
  rw [noted, transport_updateTransport ht]

theorem hangUp_eq (h : w.Staged p l halts) (ht : t < w.transports.length)
    (hnew : w.promise r.promise = {}) (call : Caller Diary) :
    (w.noted t r.kind).hangUp call p t r.promise =
      if (w.transport t).isActive then
        ((((w.noted t r.kind).silenced t).settled r.promise (.ok ())).mark p
          (.fired .deactivated)).inactiveNow call p
      else ((w.noted t r.kind).silenced t).settled r.promise (.ok ()) := by
  have hkeep := complete_new ((w.noted t r.kind).silenced t) hnew call (.ok ())
  have hstaged : (((w.noted t r.kind).silenced t).settled r.promise (.ok ())).Staged p l halts :=
    h.congr rfl rfl rfl rfl h.ready.kept
  have hfire : (((w.noted t r.kind).silenced t).settled r.promise (.ok ())).fire call p
      .channelInactive =
        ((((w.noted t r.kind).silenced t).settled r.promise (.ok ())).mark p
          (.fired .deactivated)).inactiveNow call p :=
    hstaged.ready.execute call .inactive
  rw [← isActive_noted ht r.kind, ← hfire, hangUp]
  rw [silenced] at hkeep ⊢
  rw [hkeep]

/-- A transport that hangs up keeps the promise, and the channel has become inactive if it
    was not so before. -/
theorem hangUp_answered (h : w.Staged p l halts) (ht : t < w.transports.length)
    (hnew : w.promise r.promise = {}) (hlen : r.promise < w.promises.length) {depth : Nat}
    (hdepth : l.length ≤ depth) (hkind : r.kind = .disconnect ∨ r.kind = .close) :
    Answered cast l halts (some t) r (w.user.calls, .through) w
      ((w.noted t r.kind).hangUp (respond cast.play depth) p t r.promise) := by
  have hnoted : t < (w.noted t r.kind).transports.length := by
    rw [noted, length_updateTransport]
    exact ht
  have hhangs : w.hangsUp (some t) r = (w.transport t).isActive := by
    have hends : (decide (r.kind = .disconnect) || decide (r.kind = .close)) = true := by
      simpa using hkind
    rw [hangsUp, hends, Bool.and_true]
  have hreceived : ((w.noted t r.kind).silenced t).received (some t) =
      w.received (some t) ++ [r.kind] :=
    (received_updateTransport hnoted (by intro x; rfl)).trans (received_noted ht r.kind)
  have hstaged : (((w.noted t r.kind).silenced t).settled r.promise (.ok ())).Staged p l halts :=
    h.congr rfl rfl rfl rfl h.ready.kept
  rw [hangUp_eq h ht hnew]
  -- Only a transport that was active reports that it is so no more.
  by_cases hwas : (w.transport t).isActive = true
  · rw [if_pos hwas]
    rcases inactiveNow_relay cast (hstaged.mark p _) depth hdepth with
      ⟨hcalls, hpromises, htransports⟩
    refine ⟨?_, ?_, ?_⟩
    · simp only [hhangs, hwas]
      exact hcalls
    · rw [promise_congr hpromises]
      exact outcome_settled hlen (.ok ())
    · refine Eq.trans ?_ hreceived
      exact transport_congr (f := Transport.sunk) (fun _ => rfl) htransports t
  · rw [if_neg hwas]
    have hstays : w.hangsUp (some t) r = false := by
      rw [hhangs]
      simpa using hwas
    exact answered_of_settled rfl hlen hreceived hstays

theorem perform_answered (h : w.Staged p l halts) (ht : t < w.transports.length)
    (hnew : w.promise r.promise = {}) (hlen : r.promise < w.promises.length) {depth : Nat}
    (hdepth : l.length ≤ depth) :
    Answered cast l halts (some t) r (w.user.calls, .through) w
      (w.perform (respond cast.play depth) p t r) := by
  have hnoted : t < (w.noted t r.kind).transports.length := by
    rw [noted, length_updateTransport]
    exact ht
  have hreceived := received_noted ht r.kind
  rcases r with ⟨action, f⟩
  -- What is done after the request was noted, and before its promise is kept.
  have hsettle : ∀ w₁ : World Diary, w₁.user.calls = w.user.calls → w₁.promises = w.promises →
      w₁.received (some t) = (w.noted t action.kind).received (some t) →
      w.hangsUp (some t) ⟨action, f⟩ = false →
      Answered cast l halts (some t) ⟨action, f⟩ (w.user.calls, .through) w
        (w₁.complete (respond cast.play depth) f (.ok ())).2 := by
    intro w₁ hcalls hpromises hsunk hstays
    rw [complete_new w₁ ((promise_congr hpromises f).trans hnew)]
    exact answered_of_settled hcalls (hpromises ▸ hlen) (hsunk.trans hreceived) hstays
  -- Ending a life may set off another event, and the other actions do not.
  cases action with
  | bind address =>
      exact hsettle _ rfl rfl (received_updateTransport hnoted (by intro x; rfl))
        (Bool.and_false _)
  | connect remote origin =>
      exact hsettle _ rfl rfl (received_updateTransport hnoted (by intro x; rfl))
        (Bool.and_false _)
  | disconnect => exact hangUp_answered h ht hnew hlen hdepth (Or.inl rfl)
  | close => exact hangUp_answered h ht hnew hlen hdepth (Or.inr rfl)
  | flush =>
      exact hsettle _ rfl rfl (received_updateTransport hnoted (by intro x; rfl))
        (Bool.and_false _)

/-- A request at the sink. -/
theorem sinkRequest_answered (h : w.Staged p l halts) (hwire : w.Wired p wire)
    (hnew : w.promise r.promise = {}) (hlen : r.promise < w.promises.length) {depth : Nat}
    (hdepth : l.length ≤ depth) :
    Answered cast l halts wire r (w.user.calls, .through) w
      (w.sinkRequest (respond cast.play (depth + 1)) p r) := by
  cases wire with
  | none =>
      -- Without a channel the request is refused.
      have hattachment : (w.pipeline p).attachment = none := hwire
      have hsink : w.sinkOf p = .discarding := by rw [sinkOf, hattachment]
      rcases refuse_answered cast l halts hnew hlen
        (respond cast.play depth) with ⟨w', hrefuse, hanswered⟩
      rw [sinkRequest, hsink, respond, answer, sinkCalled, hrefuse]
      exact hanswered
  | some t =>
      -- With one, the transport carries it out.
      rcases hwire with ⟨ht, a, ha, hembedded⟩
      have hsink : w.sinkOf p = .embedded t := by rw [sinkOf, ha]; exact hembedded
      rw [sinkRequest, hsink, respond, answer, sinkCalled, carryOut]
      exact perform_answered h ht hnew hlen hdepth

end World

end Conduit
