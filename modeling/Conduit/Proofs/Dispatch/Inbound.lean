import Conduit.Proofs.Dispatch.Static

/-!
# The Course of an Inbound Event

Among static handlers an inbound event takes the course that `tour` says, and a
failure sends `exception_caught` on a tour of its own.

Delivery is recursive through the handlers: each calls the library to pass the
event on, and the library calls the next. So is the proof, by induction on the
depth to which calls may be nested. Every call takes one level of depth and at
least one member of what lies ahead, and that is why the length of what lies
ahead is depth enough.

A failure is dealt with where it happens, at whatever depth that is. What is done
about it differs: over `exception_caught` it is only noted, and over anything else
it is reported, which is a delivery too. `fireNow_tour` leaves open what is done, and
is used once for the one and then, with the result, once for the other.

## Main definitions

* `Roster.audience`: Whom an event can reach.
* `report`, `relay`: The calls that a failure and an event bring about.

## Theorems

* `conclude_ignore`: A failure that adds nothing.
* `bare_fellOff`, `bare_unheard`, `dispatch_none`: An event without a target.
* `release_jot_hold`: What was held in the meantime.
* `fireNow_tour`: The course of an event, given what is done about a failure.
* `raise_tour`: The course of `exception_caught`.
* `reportFailure_eq`: The report of a failure.
* `fireNow_relay`: The course of any event.
* `audience_none`: Where nobody collects, an event can reach all of its targets.
* `fireNow_static`: The course of an event that comes in at the head.
* `sampleStage_staged`, `fireNow_static_sampleStage`: A handler that fails in between.
-/

namespace Conduit

open Roster

/-- The targets of an event, up to the first collector, which lets nothing past. -/
def Roster.audience (l : Roster) (halts : ContextId → Bool) (cursor : Cursor)
    (kind : EventKind) : Roster :=
  (l.targets cursor kind).takeWhile fun m => !halts m.id

/-- The calls after the course of an event, if `after` says what a failure adds to them. -/
def conclude (after : List Called → Member → Error → List Called) :
    List Called × Arrival → List Called
  | (calls, .failed m cause) => after calls m cause
  | (calls, _) => calls

/-- If a failure adds nothing, it makes no difference where the course ends. -/
theorem conclude_ignore (course : List Called × Arrival) :
    conclude (fun calls _ _ => calls) course = course.1 := by
  rcases course with ⟨calls, arrival⟩
  cases arrival <;> rfl

/-- The calls after a report that the handler of a member failed over an event. -/
def report (cast : Cast) (l : Roster) (halts : ContextId → Bool) (kind : EventKind)
    (calls : List Called) (m : Member) (cause : Error) : List Called :=
  (tour cast (.inbound (.exceptionCaught (.handler kind m.name cause))) calls
    (l.audience halts (.at m.id) .exceptionCaught)).1

/-- The calls after an inbound event that starts at a cursor. -/
def relay (cast : Cast) (l : Roster) (halts : ContextId → Bool) (cursor : Cursor)
    (event : InboundEvent) (calls : List Called) : List Called :=
  conclude
    (fun calls m cause =>
      if event.kind = .exceptionCaught then calls
      else report cast l halts event.kind calls m cause)
    (tour cast (.inbound event) calls (l.audience halts cursor event.kind))

namespace World

variable {cast : Cast} {w : World Diary} {p : PipelineId} {l : Roster}
  {halts : ContextId → Bool} {event : InboundEvent}

/-- An event that falls off the end changes nothing but data. -/
theorem bare_fellOff (w : World Diary) (p : PipelineId) (event : InboundEvent) :
    (w.fellOff p event).bare = w.bare := by
  cases event with
  | messageUpdated =>
      rw [fellOff]
      by_cases hempty : (w.container (.tail p)).isEmpty = true
      · rw [if_pos hempty]
      · rw [if_neg hempty, bare_setContainer, bare_notice]
        rfl
  | _ => rfl

theorem bare_unheard (w : World Diary) (p : PipelineId) (kind : EventKind) :
    (w.unheard p kind).bare = w.bare := by
  rw [unheard]
  by_cases hkind : kind = .messageUpdated
  · rw [if_pos hkind, bare_updateContainer, bare_notice]
    rfl
  · rw [if_neg hkind, bare_notice]
    rfl

/-- An event without a target changes nothing but data. -/
theorem dispatch_none (h : w.Staged p l halts) {cursor : Cursor}
    (hnone : l.targets cursor event.kind = []) (call : Caller Diary)
    (failed : ContextId → Error → World Diary → World Diary) :
    (w.dispatch call p cursor event failed).bare = w.bare := by
  have hfind : (w.chain p).findInbound cursor event.kind = none := by
    rw [h.hosts.findInbound event.kind_isInbound, hnone]
    rfl
  rw [dispatch]
  by_cases hstart : cursor = .start ∧ (w.chain p).hasInbound = false
  · rw [if_pos hstart, bare_unheard]
  · rw [if_neg hstart, hfind, bare_fellOff]

/-- What was held while calls were added is released as if they had been there before. -/
theorem release_jot_hold (w : World Diary) (calls : List Called) (h : Holding) :
    ((w.hold h).jot calls).release h = w.jot calls :=
  release_hold (w.jot calls) h

/-- An event takes the course of a tour through its audience, if `after` says what a failure
    adds to the calls. -/
theorem fireNow_tour (cast : Cast) (after : List Called → Member → Error → List Called)
    (hfail : ∀ (depth : Nat) (w : World Diary) (m : Member) (cause : Error),
      w.Staged p l halts → m ∈ l → (l.ahead (.at m.id)).length ≤ depth →
      (onFailure (respond cast.play depth) p event m.id cause w).bare =
        w.bare.jot (after w.user.calls m cause)) :
    ∀ (depth : Nat) (w : World Diary) (cursor : Cursor), w.Staged p l halts →
      (l.ahead cursor).length ≤ depth →
      (w.fireNow (respond cast.play depth) p cursor event).bare =
        w.bare.jot (conclude after (tour cast (.inbound event) w.user.calls
          (l.audience halts cursor event.kind))) := by
  intro depth
  induction depth with
  | zero =>
      intro w cursor h hlen
      -- No depth is left, and none is needed where nothing lies ahead.
      have hahead : l.ahead cursor = [] := List.eq_nil_of_length_eq_zero (by omega)
      have hnone : l.targets cursor event.kind = [] := by rw [targets, hahead]; rfl
      rw [fireNow_eq, dispatch_none h hnone, audience, hnone]
      rfl
  | succ depth ih =>
      intro w cursor h hlen
      rw [fireNow_eq]
      cases htargets : l.targets cursor event.kind with
      | nil =>
          -- The event falls off the end.
          rw [dispatch_none h htargets, audience, htargets]
          rfl
      | cons m ms =>
          rcases targets_cons h.hosts.holds.linked.ids_nodup htargets with
            ⟨hm, -, hafter, hlt, hat⟩
          rw [h.hosts.dispatch_some htargets, audience, htargets]
          cases hhalts : halts m.id with
          | true =>
              -- A collector keeps what comes, and the tour does not count it.
              rcases h.collector m hm hhalts with ⟨t, ht⟩
              rw [respond_collector ht, List.takeWhile_cons_of_neg (by simp [hhalts])]
              exact bare_collect m.id t event
          | false =>
              rcases h.custom m hm hhalts with ⟨tag, htag⟩
              rw [respond_custom htag, List.takeWhile_cons_of_pos (by simp [hhalts]), tour,
                Cast.play]
              have hlater : ∀ calls, (w.jot calls).Staged p l halts := fun calls => h.of_bare rfl
              cases cast w.user.calls m.id (.inbound event) with
              | stop => rfl
              | fail cause =>
                  exact hfail (depth + 1) _ m cause (hlater _) hm (by omega)
              | panic payload =>
                  exact hfail (depth + 1) _ m (.ofPanic payload) (hlater _) hm (by omega)
              | proceed =>
                  -- The handler passes the event on, one level down.
                  rcases byDefault_inbound (hlater (w.user.calls ++ [⟨m.id, .inbound event⟩])) hm
                    (respond cast.play depth) event with ⟨w₁, hw₁, hpass⟩
                  have hstaged : (w₁.hold (.pipeline p)).Staged p l halts :=
                    ((hlater _).of_bare hw₁).hold
                  have hcalls : (w₁.hold (.pipeline p)).user.calls =
                      w.user.calls ++ [⟨m.id, .inbound event⟩] :=
                    congrArg (fun w => w.user.calls) hw₁
                  simp only []
                  rw [hpass, bare_release, ih _ (.after m.id) hstaged (by omega), hcalls,
                    bare_hold, hw₁, release_jot_hold, bare_jot, jot_jot, audience, hafter]

/-- Over `exception_caught` a failure is only noted. -/
theorem raise_tour (cast : Cast) (depth : Nat) (w : World Diary) (cursor : Cursor) (cause : Error)
    (h : w.Staged p l halts) (hlen : (l.ahead cursor).length ≤ depth) :
    (w.raise (respond cast.play depth) p cursor cause).bare =
      w.bare.jot (tour cast (.inbound (.exceptionCaught cause)) w.user.calls
        (l.audience halts cursor .exceptionCaught)).1 := by
  -- A notice of this kind leaves no trace in the diary.
  have hfail : ∀ (depth : Nat) (w : World Diary) (m : Member) (second : Error),
      w.Staged p l halts → m ∈ l → (l.ahead (.at m.id)).length ≤ depth →
      (onFailure (respond cast.play depth) p (.exceptionCaught cause) m.id second w).bare =
        w.bare.jot w.user.calls := by
    intro depth w m second _ _ _
    rfl
  have htour := fireNow_tour cast (fun calls _ _ => calls) hfail depth w cursor h hlen
  rw [conclude_ignore] at htour
  exact htour

/-- A failure over anything else is reported from the failing member on. -/
theorem reportFailure_eq (cast : Cast) (depth : Nat) (w : World Diary) (m : Member)
    (kind : EventKind) (cause : Error) (h : w.Staged p l halts) (hm : m ∈ l)
    (hlen : (l.ahead (.at m.id)).length ≤ depth) :
    (w.reportFailure (respond cast.play depth) p m.id kind cause).bare =
      w.bare.jot (report cast l halts kind w.user.calls m cause) := by
  rw [reportFailure, h.hosts.name m hm, raise_tour cast depth w _ _ h hlen]
  rfl

/-- An event brings about the calls that `relay` says, and changes nothing else but data. -/
theorem fireNow_relay (cast : Cast) (depth : Nat) (w : World Diary) (cursor : Cursor)
    (event : InboundEvent) (h : w.Staged p l halts) (hlen : (l.ahead cursor).length ≤ depth) :
    (w.fireNow (respond cast.play depth) p cursor event).bare =
      w.bare.jot (relay cast l halts cursor event w.user.calls) := by
  refine fireNow_tour cast _ ?_ depth w cursor h hlen
  intro depth w m cause h hm hlen
  cases event with
  | exceptionCaught _ => rfl
  | messageUpdated =>
      -- What the failed handler has read is thrown away, which is only data.
      have hbare : (w.updateContainer (.inbound m.id) (·.discardReadBytes)).bare = w.bare :=
        bare_updateContainer w _ _
      rw [onFailure, reportFailure_eq cast depth _ m _ cause (h.of_bare hbare) hm hlen, hbare,
        calls_of_bare hbare]
      rfl
  | channelOpen => exact reportFailure_eq cast depth w m _ cause h hm hlen
  | channelActive => exact reportFailure_eq cast depth w m _ cause h hm hlen
  | channelInactive => exact reportFailure_eq cast depth w m _ cause h hm hlen
  | userEventTriggered _ => exact reportFailure_eq cast depth w m _ cause h hm hlen

/-- Where nobody collects, an event can reach all of its targets. -/
theorem audience_none (l : Roster) (cursor : Cursor) (kind : EventKind) :
    l.audience (fun _ => false) cursor kind = l.targets cursor kind := by
  have hall : ∀ m ∈ l.targets cursor kind, (!false) = true := fun _ _ => rfl
  rw [audience, ← List.append_nil (l.targets cursor kind), List.takeWhile_append_of_pos hall]
  rfl

/-- An inbound event that comes in at the head of a pipeline of static handlers is delivered
    to those that handle its kind, from head to tail, until one does not pass it on. If that
    one has failed, and the event was not itself the report of a failure, the failure is
    reported to those that handle reports, from the failing one on, until one does not pass
    it on. Nothing else changes but data, and nothing is raised: what comes back is the world
    alone. -/
theorem fireNow_static (cast : Cast) (w : World Diary) (p : PipelineId) (l : Roster)
    (event : InboundEvent) (depth : Nat) (h : w.Staged p l fun _ => false)
    (hdepth : l.length ≤ depth) :
    let w' := w.fireNow (respond cast.play depth) p .start event
    (w'.user.calls =
      match tour cast (.inbound event) w.user.calls (l.filter (·.events.handles event.kind)) with
      | (calls, .failed m cause) =>
        if event.kind = .exceptionCaught then calls
        else
          (tour cast (.inbound (.exceptionCaught (.handler event.kind m.name cause))) calls
            ((l.dropWhile (·.id ≠ m.id)).filter (·.events.handles .exceptionCaught))).1
      | (calls, _) => calls) ∧
    w'.bare = w.bare.jot w'.user.calls := by
  intro w'
  have hbare : w'.bare = w.bare.jot (relay cast l (fun _ => false) .start event w.user.calls) :=
    fireNow_relay cast depth w .start event h hdepth
  -- Nobody but the cast writes in the diary, so the calls are those of the relay.
  have hcalls := calls_of_bare hbare
  refine ⟨?_, by rw [hcalls]; exact hbare⟩
  rw [hcalls, relay, audience_none]
  change conclude _ (tour cast (.inbound event) w.user.calls
    (l.filter (·.events.handles event.kind))) = _
  rcases tour cast (.inbound event) w.user.calls (l.filter (·.events.handles event.kind)) with
    ⟨calls, arrival⟩
  cases arrival with
  | failed m cause =>
      rw [conclude, report, audience_none]
      rfl
  | _ => rfl

/-- Three contexts: the first hears of activity, the second of exceptions too, and the third
    of exceptions only. -/
def sampleEdits : List Edit :=
  [.insert ⟨0, "a", .ofList [.channelActive]⟩ .last,
    .insert ⟨1, "b", .ofList [.channelActive, .exceptionCaught]⟩ .last,
    .insert ⟨2, "c", .ofList [.exceptionCaught]⟩ .last]

/-- A context of the first pipeline with a handler of the user's. -/
def sampleContext (name : String) (kinds : List EventKind) : Context where
  pipeline := 0
  name := name
  handler := { typeName := "Sample", events := .ofList kinds, role := .custom 0 }

def sampleStage : World Diary where
  pipelines := [{ chain := (Edit.run Chain.edit {} sampleEdits).1 }]
  contexts :=
    [sampleContext "a" [.channelActive], sampleContext "b" [.channelActive, .exceptionCaught],
      sampleContext "c" [.exceptionCaught]]
  held := [.pipeline 0]
  user := {}

/-- The second handler fails over activity, and the third does nothing. -/
def sampleCast : Cast
  | _, 1, .inbound .channelActive => .fail .closed
  | _, 2, _ => .stop
  | _, _, _ => .proceed

theorem sampleStage_staged :
    sampleStage.Staged 0 (Edit.run Roster.edit [] sampleEdits).1 fun _ => false where
  hosts :=
    { holds := (Chain.run_agrees sampleEdits {} [] Chain.empty_holds (by decide)).1
      known := by decide
      pipeline := by decide
      name := by decide
      events := by decide
      linked := by decide }
  ready := ⟨rfl, rfl⟩
  custom := fun m hm _ => ⟨0, by revert m; decide⟩
  collector := fun m hm hh => absurd hh (by decide)

theorem fireNow_static_sampleStage :
    (sampleStage.fireNow (respond sampleCast.play 3) 0 .start .channelActive).user.calls =
      [⟨0, .inbound .channelActive⟩, ⟨1, .inbound .channelActive⟩,
        ⟨1, .inbound (.exceptionCaught (.handler .channelActive "b" .closed))⟩,
        ⟨2, .inbound (.exceptionCaught (.handler .channelActive "b" .closed))⟩] := by
  have h := fireNow_static sampleCast sampleStage 0 _ .channelActive 3 sampleStage_staged
    (by decide)
  exact h.1.trans rfl

end World

end Conduit
