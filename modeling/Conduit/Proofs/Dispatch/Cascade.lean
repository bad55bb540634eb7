import Conduit.Proofs.Dispatch.Failure
import Conduit.Proofs.Outside.Muffled

/-!
# Failures During a Report

A handler that fails over a report is not reported. So a report that goes wrong does
not set off another one, whatever handlers there are and wherever in a run it happens.
The strongest way to say so is that nothing would be different if the handler had not
failed and had made the note itself, and that is `undergoAll_muffled`. Listeners and
tasks are of the same kind.

This does not bound the reports. What is looked at is over what a handler fails, not
during what. A handler of exceptions may ask for something, such as a closing, and
whoever fails over that is reported in turn, while the first report is still under
way. If the handler asks every time, it does not end.

## Theorems

* `undergoAll_muffled`: Failing over a report is only noted.
* `report_nested`: A report during a report.
* `sendNow_sampleObstinate`: A closing that fails is reported.
* `raise_sampleAfter`, `raise_sampleObstinate`: The report makes a handler ask for another.
* `reports_sampleObstinate`: No number of reports is too many.
-/

namespace Conduit.World

variable {σ : Type} [Journal σ]

/-- Whatever happens in a run, it makes no difference whether handlers fail over reports, or
    listeners or tasks fail at all, but for the note that the library makes of it. -/
theorem undergoAll_muffled (players : Players σ) (depth : Nat) (w : World σ)
    (occasions : List (Occasion σ)) :
    w.undergoAll (respond players.muffled.play depth) occasions =
      w.undergoAll (respond players.play depth) occasions :=
  (Muffles.respond players depth).undergoAll w occasions

/-- A handler that fails over closing, and one of user events and exceptions. -/
def sampleRelapse : World Diary where
  pipelines :=
    [{ chain := (Edit.run Chain.edit {}
        [.insert ⟨0, "x", .ofList [.close]⟩ .last,
          .insert ⟨1, "h", .ofList [.channelActive, .exceptionCaught]⟩ .last]).1 }]
  contexts := [sampleContext "x" [.close], sampleContext "h" [.channelActive, .exceptionCaught]]
  held := [.pipeline 0]
  user := {}

/-- The second handler fails over activity and asks for a closing over the first exception, and
    the first handler fails over that. Whoever gets to its end is recorded once more. -/
def sampleRelapsing : Players Diary
  | .handler 0 (.outbound r), _ => recorded 0 (.outbound r) (.finish (.error .closed))
  | .handler 1 (.inbound .channelActive), _ =>
    recorded 1 (.inbound .channelActive) (.finish (.error .closed))
  | .handler 1 (.inbound (.exceptionCaught cause)), w =>
    recorded 1 (.inbound (.exceptionCaught cause)) <|
      if w.promises.isEmpty then
        .act (.request 0 .close) fun _ _ =>
          recorded 1 (.inbound (.exceptionCaught cause)) (.finish (.ok ()))
      else recorded 1 (.inbound (.exceptionCaught cause)) (.finish (.ok ()))
  | _, _ => .finish (.ok ())

/-- While the handler of exceptions is told of a failure, it is told of another one. -/
theorem report_nested :
    let first : Called :=
      ⟨1, .inbound (.exceptionCaught (.handler .channelActive "h" .closed))⟩
    let second : Called := ⟨1, .inbound (.exceptionCaught (.handler .close "x" .closed))⟩
    let w := sampleRelapse.undergoAll (respond sampleRelapsing.play 4)
      [.deed (.fireFrom 0 .channelActive)]
    w.user.calls =
        [⟨1, .inbound .channelActive⟩, first, ⟨0, .outbound ⟨.close, 0⟩⟩, second, second, first] ∧
      (w.promise 0).outcome = some (.error .closed) :=
  ⟨rfl, rfl⟩

/-! ### Reports without end -/

/-- The second handler asks for a closing over every exception, and the first handler fails over
    every closing. -/
def sampleObstinate : Players Diary
  | .handler 0 (.outbound r), _ => recorded 0 (.outbound r) (.finish (.error .closed))
  | .handler 1 (.inbound (.exceptionCaught cause)), _ =>
    recorded 1 (.inbound (.exceptionCaught cause))
      (.act (.request 0 .close) fun _ _ => .finish (.ok ()))
  | _, _ => .finish (.ok ())

/-- The sample, after some calls and requests. -/
def sampleAfter (calls : List Called) (promises : List Promise) : World Diary :=
  { sampleRelapse with user := { calls }, promises }

/-- How many reports have reached a handler. -/
def reports (w : World Diary) : Nat :=
  w.user.calls.countP (·.callback.name == EventKind.exceptionCaught.name)

section Obstinate

variable (depth : Nat) (calls : List Called) (promises : List Promise)

/-- A closing that fails is reported. -/
theorem sendNow_sampleObstinate {calls' : List Called} {cause : Error}
    (hanswer : respond sampleObstinate.play depth
      (.handler 0 (.outbound ⟨.close, promises.length⟩)) (sampleAfter calls promises).newPromise.2 =
        (.error cause, (sampleAfter calls' promises).newPromise.2)) :
    (sampleAfter calls promises).newPromise.2.sendNow (respond sampleObstinate.play depth) 0
        .start ⟨.close, promises.length⟩ =
      (sampleAfter calls' (promises ++ [{ outcome := some (.error cause) }])).raise
        (respond sampleObstinate.play depth) 0 (.at 0) (.handler .close "x" cause) := by
  have hfind : ((sampleAfter calls promises).newPromise.2.chain 0).findOutbound .start .close =
    some 0 := by rfl
  -- Nobody listens to the promise, so breaking it calls nobody.
  have hkept := complete_newPromise (sampleAfter calls' promises)
    (respond sampleObstinate.play depth) (.error cause)
  have hlength : (sampleAfter calls' promises).promises.length = promises.length := rfl
  rw [hlength] at hkept
  rw [sendNow, Request.kind, Action.kind, hfind]
  dsimp only
  rw [hanswer]
  dsimp only
  rw [if_neg (by decide), hkept]
  rfl

/-- A report reaches the handler of exceptions. -/
theorem raise_sampleAfter (call : Caller Diary) (cause : Error) :
    (sampleAfter calls promises).raise call 0 (.at 0) cause =
      match call (.handler 1 (.inbound (.exceptionCaught cause))) (sampleAfter calls promises) with
      | (.ok _, w) => w
      | (.error second, w) => w.notice (.exceptionHandlerFailed (w.context 1).name second) := by
  have hfind : ((sampleAfter calls promises).chain 0).findInbound (.at 0) .exceptionCaught =
    some 1 := by rfl
  have hstart : ¬ (Cursor.at 0 = Cursor.start ∧
      ((sampleAfter calls promises).chain 0).hasInbound = false) := by
    rintro ⟨h, -⟩
    cases h
  rw [raise, dispatch, if_neg hstart, InboundEvent.kind, hfind]
  dsimp only
  cases call (.handler 1 (.inbound (.exceptionCaught cause))) (sampleAfter calls promises) with
  | mk outcome w => cases outcome <;> rfl

/-- It makes that handler ask for a closing. -/
theorem raise_sampleObstinate (cause : Error) :
    (sampleAfter calls promises).raise (respond sampleObstinate.play (depth + 1)) 0 (.at 0) cause =
      (sampleAfter (calls ++ [⟨1, .inbound (.exceptionCaught cause)⟩])
        promises).newPromise.2.sendNow (respond sampleObstinate.play depth) 0 .start
          ⟨.close, promises.length⟩ := by
  rw [raise_sampleAfter]
  rfl

end Obstinate

/-- Every report sets off another one, as deep as calls can be nested. -/
theorem reports_sampleObstinate (depth : Nat) :
    ∀ (calls : List Called) (promises : List Promise) (cause : Error),
      ((sampleAfter calls promises).raise (respond sampleObstinate.play depth) 0 (.at 0)
        cause).reports = (sampleAfter calls promises).reports + depth := by
  -- By induction on the depth: each report asks for a closing one level down, and that fails.
  induction depth with
  | zero =>
      intro calls promises cause
      rw [raise_sampleAfter]
      rfl
  | succ depth ih =>
      intro calls promises cause
      have hreport : ∀ promises', (sampleAfter (calls ++ [⟨1, .inbound (.exceptionCaught cause)⟩])
          promises').reports = (sampleAfter calls promises).reports + 1 :=
        fun _ => List.countP_append
      rw [raise_sampleObstinate]
      cases depth with
      | zero => rw [sendNow_sampleObstinate 0 _ promises rfl, ih, hreport]
      | succ depth =>
          have hanswer : ∀ calls, respond sampleObstinate.play (depth + 1)
              (.handler 0 (.outbound ⟨.close, promises.length⟩))
              (sampleAfter calls promises).newPromise.2 =
                (.error .closed, (sampleAfter (calls ++ [⟨0, .outbound ⟨.close, promises.length⟩⟩])
                  promises).newPromise.2) := fun _ => rfl
          -- The closing is a call too, but not a report.
          have hclosing : ∀ calls promises', (sampleAfter
              (calls ++ [⟨0, .outbound ⟨.close, promises.length⟩⟩]) promises').reports =
                (sampleAfter calls promises).reports :=
            fun _ _ => List.countP_append
          rw [sendNow_sampleObstinate (depth + 1) _ promises (hanswer _), ih, hclosing, hreport]
          omega

end Conduit.World
