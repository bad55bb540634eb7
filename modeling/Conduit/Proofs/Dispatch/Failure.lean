import Conduit.Proofs.Dispatch.Inbound
import Conduit.Proofs.Outside.Survivors

/-!
# Who Hears of a Failure

A handler that fails is reported from its own place on. The place is looked up
when the report is made, and by then the callback has come and gone: it may have
changed the pipeline in any way, and so may the listeners of a promise that failed
with it.

As long as the handler is still linked the report finds its way. It goes to the
first handler of exceptions at or past it, and of those that were there when the
handler was called it passes over none that is still linked. Only a handler that
was added meanwhile can come first.

If the handler is not linked any more, there is no place to start from and the
report reaches nobody, whoever is still there to hear it. A handler that removes
or replaces itself before it fails does so in silence.

## Main definitions

* `Delivery`: An event or a request on its way to a handler.
* `World.bring`: Delivering it.
* `World.afterFailure`: What is done before a failure is reported.
* `World.announce`: Reporting it to the first of some handlers.

## Theorems

* `Sound.reportFailure_eq`: Where a report goes.
* `Steady.afterFailure`: What is done after a failure keeps what calls keep.
* `Sound.bring_failed`: What is done about a failure.
* `failure_heard`: Who hears of a failure, whatever the handlers do.
* `sampleStage_sound`, `failure_heard_sampleQuarrel`: A handler that fails and stays.
* `failure_lost`: A handler that leaves before it fails is not heard of.
-/

namespace Conduit

open Roster

/-- An event or a request on its way to a handler. -/
inductive Delivery where
  | inbound (event : InboundEvent)
  | outbound (r : Request)
  deriving Inhabited

namespace Delivery

/-- The kind of what is delivered. -/
def kind : Delivery → EventKind
  | inbound event => event.kind
  | outbound r => r.kind

/-- What the handler is called for. -/
def callback : Delivery → Callback
  | inbound event => .inbound event
  | outbound r => .outbound r

/-- A roster in the direction of travel. -/
def along : Delivery → Roster → Roster
  | inbound _, l => l
  | outbound _, l => l.reverse

end Delivery

namespace World

variable {σ : Type} {w w₁ : World σ} {p : PipelineId} {m : Member} {call : Caller σ}

variable [Journal σ]

/-- Delivers an event or a request from a cursor on, on the calling thread. -/
def bring (w : World σ) (call : Caller σ) (p : PipelineId) (cursor : Cursor) :
    Delivery → World σ
  | .inbound event => w.fireNow call p cursor event
  | .outbound r => w.sendNow call p cursor r

/-- What is done when a handler has failed, before that is reported: what it has read of
    its data is dropped, and the promise of a request fails. -/
def afterFailure (w : World σ) (call : Caller σ) (c : ContextId) (cause : Error) :
    Delivery → World σ
  | .inbound event =>
    if event.kind = .messageUpdated then w.updateContainer (.inbound c) (·.discardReadBytes) else w
  | .outbound r =>
    let w := if r.kind = .flush then w.updateContainer (.outbound c) (·.discardReadBytes) else w
    (w.complete call r.promise (.error cause)).2

/-- Reports an error to the first of some handlers, if there is one. If that fails over it,
    or if there is none, that is noted. -/
def announce (w : World σ) (call : Caller σ) (heirs : Roster) (cause : Error) : World σ :=
  match heirs with
  | [] => w.notice (.exceptionReachedTail cause)
  | x :: _ =>
    match call (.handler x.id (.inbound (.exceptionCaught cause))) w with
    | (.ok _, w) => w
    | (.error second, w) => w.notice (.exceptionHandlerFailed (w.context x.id).name second)

/-! ### The report -/

/-- A report goes to the first handler of exceptions from the place of the context on. -/
theorem Sound.reportFailure_eq (hw : w.Sound) (call : Caller σ) (p : PipelineId) (c : ContextId)
    (kind : EventKind) (cause : Error) :
    w.reportFailure call p c kind cause =
      w.announce call ((w.roster p).targets (.at c) .exceptionCaught)
        (.handler kind (w.context c).name cause) := by
  have hhosts := hw p
  rw [reportFailure, raise]
  cases htargets : (w.roster p).targets (.at c) .exceptionCaught with
  | nil =>
      have hfind : (w.chain p).findInbound (.at c) .exceptionCaught = none := by
        rw [hhosts.findInbound rfl, htargets]
        rfl
      rw [dispatch, if_neg (by simp)]
      simp only [InboundEvent.kind, hfind]
      rfl
  | cons x xs => exact hhosts.dispatch_some htargets call _

theorem Steady.afterFailure {I : World σ → Prop} (h : Steady I call) (hw : I w) (c : ContextId)
    (cause : Error) (d : Delivery) : I (w.afterFailure call c cause d) := by
  cases d with
  | inbound event =>
      rw [World.afterFailure]
      split
      · exact h.stolid.same hw (by simp)
      · exact hw
  | outbound r =>
      refine h.stolid.complete ?_ r.promise (.error cause)
      split
      · exact h.stolid.same hw (by simp)
      · exact hw

/-- A handler that fails over what is brought to it is reported, unless it fails over a
    report. -/
theorem Sound.bring_failed (hw : w.Sound) {cursor : Cursor} {d : Delivery} {ms : Roster}
    {cause : Error} (hkind : d.kind ≠ .exceptionCaught)
    (htarget : (d.along (w.roster p)).targets cursor d.kind = m :: ms)
    (hfail : call (.handler m.id d.callback) w = (.error cause, w₁)) :
    w.bring call p cursor d =
      (w₁.afterFailure call m.id cause d).reportFailure call p m.id d.kind cause := by
  cases d with
  | inbound event =>
      rw [bring, fireNow_eq, (hw p).dispatch_some htarget]
      -- Both directions end in the same report, so the failure is met by kind and not by side.
      rw [Delivery.callback] at hfail
      rw [hfail]
      cases event with
      | exceptionCaught e => exact absurd rfl hkind
      | _ => rfl
  | outbound r =>
      have hfind : (w.chain p).findOutbound cursor r.kind = some m.id := by
        rw [(hw p).findOutbound r.kind_isInbound]
        exact congrArg (fun l => l.head?.map Member.id) htarget
      rw [Delivery.callback] at hfail
      rw [bring, sendNow, hfind]
      simp only [hfail]
      rfl

/-- A handler that fails over anything but a report is reported. The report goes to the
    first handler of exceptions from its place on, if it is still linked. Of those that were
    there when it was called, all that are left stand in that order among the ones that may
    hear of it. If it is not linked any more, there is nobody to hear of it. -/
theorem failure_heard (players : Players σ) (depth : Nat) (hw : w.Sound) {cursor : Cursor}
    {d : Delivery} {ms : Roster} {cause : Error} (hkind : d.kind ≠ .exceptionCaught)
    (htarget : (d.along (w.roster p)).targets cursor d.kind = m :: ms)
    (hfail : respond players.play depth (.handler m.id d.callback) w = (.error cause, w₁)) :
    let call := respond players.play depth
    let w₂ := w₁.afterFailure call m.id cause d
    let heirs := (w₂.roster p).targets (.at m.id) .exceptionCaught
    w.bring call p cursor d = w₂.announce call heirs (.handler d.kind m.name cause) ∧
      (w₂.IsLinked m.id →
        heirs.filter (fun x => x.id < w.contexts.length) =
          ((w.roster p).targets (.at m.id) .exceptionCaught).filter (· ∈ w₂.roster p)) ∧
      (¬ w₂.IsLinked m.id → heirs = []) ∧
      (w.bring call p cursor d).Sound := by
  intro call w₂ heirs
  have hcall : Heeds Lineage call := respond_lineage players depth
  have hsteady := lineage_abides.steady hcall w
  -- The callback and what follows it on failure are one line of descent.
  have hfailed : Lineage w w₁ := hsteady.after hfail (Lineage.refl w)
  have hline : Lineage w w₂ := hsteady.afterFailure hfailed m.id cause d
  have hdescends := hline hw
  have hm : m ∈ w.roster p := by
    -- A target is a member, whichever way what is brought to it travels.
    have hmem : m ∈ d.along (w.roster p) := by
      have hhead : m ∈ (d.along (w.roster p)).targets cursor d.kind := by
        rw [htarget]
        exact List.mem_cons_self ..
      exact (ahead_suffix _ _).subset (List.mem_of_mem_filter hhead)
    cases d with
    | inbound event => exact hmem
    | outbound r => exact List.mem_reverse.mp hmem
  have hid := hdescends.known m.id ((hw p).known m hm)
  have hname : (w₂.context m.id).name = m.name :=
    (congrArg Member.name hid.2).trans ((hw p).name m hm)
  have hbring : w.bring call p cursor d =
      w₂.announce call heirs (.handler d.kind m.name cause) := by
    rw [hw.bring_failed hkind htarget hfail, hdescends.sound.reportFailure_eq, hname]
  refine ⟨hbring, fun h => ?_, fun h => ?_, ?_⟩
  · exact hdescends.targets_survivors hw hm h (.inl rfl) .exceptionCaught
  · rw [isLinked_iff, hid.1, (hw p).pipeline m hm] at h
    exact targets_absent h (.inl rfl) .exceptionCaught
  · rw [hw.bring_failed hkind htarget hfail]
    exact (hsteady.reportFailure hline p m.id d.kind cause hw).sound

/-! ### Two handlers that fail -/

/-- A handler that keeps a record of its calls and may do something else. -/
def recorded (c : ContextId) (callback : Callback) (course : Course Diary) : Course Diary :=
  .act (.keep fun diary => { diary with calls := diary.calls ++ [⟨c, callback⟩] })
    fun _ _ => course

/-- The first handler removes the second one and fails. -/
def sampleQuarrel : Players Diary
  | .handler 0 (.inbound .channelActive), _ =>
    recorded 0 (.inbound .channelActive)
      (.act (.move 0 (.remove "b")) fun _ _ => .finish (.error .closed))
  | .handler c callback, _ => recorded c callback (.finish (.ok ()))
  | _, _ => .finish (.ok ())

/-- The first handler removes itself and fails. -/
def sampleLeaver : Players Diary
  | .handler 0 (.inbound .channelActive), _ =>
    recorded 0 (.inbound .channelActive)
      (.act (.move 0 (.remove "a")) fun _ _ => .finish (.error .closed))
  | .handler c callback, _ => recorded c callback (.finish (.ok ()))
  | _, _ => .finish (.ok ())

theorem sampleStage_sound : sampleStage.Sound := by
  refine sound_of fun p hp => ?_
  have hp : p = 0 := Nat.lt_one_iff.mp hp
  subst hp
  exact ⟨_, sampleStage_staged.hosts⟩

/-- The second handler is gone, so the third is the first to hear of it. -/
theorem failure_heard_sampleQuarrel :
    (sampleStage.bring (respond sampleQuarrel.play 3) 0 .start
        (.inbound .channelActive)).user.calls.getLast? =
      some ⟨2, .inbound (.exceptionCaught (.handler .channelActive "a" .closed))⟩ := by
  have htarget : (Delivery.along (.inbound .channelActive) (sampleStage.roster 0)).targets .start
      .channelActive = ⟨0, "a", .ofList [.channelActive]⟩ ::
        [⟨1, "b", .ofList [.channelActive, .exceptionCaught]⟩] := rfl
  have hfail : respond sampleQuarrel.play 3 (.handler 0 (.inbound .channelActive)) sampleStage =
      (.error .closed, _) := rfl
  have h := failure_heard sampleQuarrel 3 sampleStage_sound (d := .inbound .channelActive)
    (by decide) htarget hfail
  exact (congrArg (fun w => w.user.calls.getLast?) h.1).trans rfl

/-- The second and the third handler are still there, and neither hears of it. -/
theorem failure_lost :
    let call := respond sampleLeaver.play 3
    let w := sampleStage.bring call 0 .start (.inbound .channelActive)
    (call (.handler 0 (.inbound .channelActive)) sampleStage).1 = .error .closed ∧
      names (((sampleStage.roster 0).targets (.at 0) .exceptionCaught).filter
        (· ∈ w.roster 0)) = ["b", "c"] ∧
      w.user.calls.map (fun x => (x.context, x.callback.name)) =
        [(0, "channel_active"), (0, "before_remove"), (0, "after_remove")] := by
  exact ⟨rfl, by decide, by decide⟩

end World

end Conduit
