import Conduit.Proofs.Dispatch.Sink

/-!
# The Course of a Request

Among static handlers a request takes the course that `tour` says, from the tail
to the head, and what is seen of it in the end follows from where the course ends.
A handler that does nothing has swallowed the request, and its promise is never
kept. A handler that fails has the promise broken with its own error, while the
report of the failure, an inbound event, wraps it. Past the last handler there is
the sink.

The induction is on depth once more. Depth is spent in two ways, on the way out
and, wherever that ends, on an inbound event over the whole chain, so twice the
length of the chain suffices. No step on the way out does anything to what is
seen of the request: the same promise is passed from handler to handler, and data
moves along.

## Main definitions

* `Ask`: A request that can be made of a pipeline.

## Theorems

* `custom_of_outbound`: A collector handles no request.
* `Answered.from`, `Answered.release`: What makes no difference to what is seen.
* `failed_answered`, `undelivered_answered`: A handler that fails over a request.
* `sendNow_answered`: The course of a request from anywhere.
* `ask_promise`, `ask_eq`: What a request that is made of a pipeline comes to.
* `ask_answered`: The course of a request that is made of a pipeline.
* `sampleWire_staged`, `ask_answered_sampleWire`: A channel that is closed.
-/

namespace Conduit

open Roster

namespace World

variable {cast : Cast} {w w' : World Diary} {p : PipelineId} {l : Roster}
  {halts : ContextId → Bool} {wire : Option TransportId} {r : Request}

/-- A collector handles no request. -/
theorem custom_of_outbound (h : w.Staged p l halts) {m : Member} (hm : m ∈ l)
    {kind : EventKind} (hkind : kind.isInbound = false) (hh : m.events.handles kind = true) :
    ∃ tag, (w.context m.id).handler.role = .custom tag := by
  cases hhalts : halts m.id with
  | false => exact h.custom m hm hhalts
  | true =>
      rcases h.collector m hm hhalts with ⟨t, ht⟩
      -- Collectors ask for inbound events, and for nothing else.
      rw [h.hosts.handles_collector hm ht, hkind] at hh
      exact absurd hh (by decide)

/-- What is seen of a request does not depend on the data and the calls before it. -/
theorem Answered.from {course : List Called × Arrival} {w₁ w₂ : World Diary}
    (h : Answered cast l halts wire r course w₁ w₂)
    (htransports : w₁.transports.map Transport.bare = w.transports.map Transport.bare)
    (hrefused : w₁.user.refused = w.user.refused) :
    Answered cast l halts wire r course w w₂ where
  calls := by
    rw [← hangsUp_congr htransports]
    exact h.calls
  outcome := h.outcome
  received := by
    rw [← received_congr htransports hrefused]
    exact h.received

/-- Nor does it depend on what was held meanwhile. -/
theorem Answered.release {course : List Called × Arrival} {w₂ : World Diary}
    (h : Answered cast l halts wire r course w w₂) (x : Holding) :
    Answered cast l halts wire r course w (w₂.release x) where
  calls := h.calls
  outcome := h.outcome
  received := by
    refine Eq.trans ?_ h.received
    cases wire <;> rfl

/-- A handler that fails over a request breaks its promise, and is reported. -/
theorem failed_answered (cast : Cast) (wire : Option TransportId) (h : w.Staged p l halts)
    {m : Member} (hm : m ∈ l)
    (hnew : w.promise r.promise = {}) (hlen : r.promise < w.promises.length) {depth : Nat}
    (hdepth : (l.ahead (.at m.id)).length ≤ depth) (cause : Error) :
    Answered cast l halts wire r (w.user.calls, .failed m cause) w
      ((w.complete (respond cast.play depth) r.promise (.error cause)).2.reportFailure
        (respond cast.play depth) p m.id r.kind cause) := by
  -- The promise is broken first, and nobody waits for it.
  have hstaged : (w.settled r.promise (.error cause)).Staged p l halts :=
    h.congr rfl rfl rfl rfl h.ready.kept
  have hbare := reportFailure_eq cast depth (w.settled r.promise (.error cause)) m
    r.kind cause hstaged hm hdepth
  rcases parts_of_bare hbare with ⟨hrefused, hpromises, htransports⟩
  rw [complete_new w hnew]
  refine ⟨calls_of_bare hbare, ?_, received_congr htransports hrefused wire⟩
  exact (congrArg Promise.outcome (promise_congr hpromises r.promise)).trans
    (outcome_settled hlen (.error cause))

/-- The same from the delivery on, with what a failed flush has read thrown away. -/
theorem undelivered_answered {m : Member} {calls : List Called} (h : w.Staged p l halts)
    (hm : m ∈ l) (hnew : w.promise r.promise = {}) (hlen : r.promise < w.promises.length)
    {depth : Nat} (hdepth : (l.ahead (.at m.id)).length ≤ depth) (cause : Error) :
    Answered cast l halts wire r (calls, .failed m cause) w
      (((if r.kind = .flush then
          (w.jot calls).updateContainer (.outbound m.id) (·.discardReadBytes)
        else w.jot calls).complete (respond cast.play depth) r.promise
          (.error cause)).2.reportFailure (respond cast.play depth) p m.id r.kind cause) := by
  -- Whether or not anything was thrown away, the bare world is the same.
  have hsame : ∀ w₁ : World Diary, w₁.bare = w.bare.jot calls →
      Answered cast l halts wire r (calls, .failed m cause) w
        ((w₁.complete (respond cast.play depth) r.promise (.error cause)).2.reportFailure
          (respond cast.play depth) p m.id r.kind cause) := by
    intro w₁ hbare
    rcases parts_of_bare hbare with ⟨hrefused, hpromises, htransports⟩
    have hfailed := failed_answered cast wire (h.of_bare hbare) hm
      ((promise_congr hpromises r.promise).trans hnew) (hpromises ▸ hlen) hdepth cause
    rw [calls_of_bare hbare] at hfailed
    exact hfailed.from htransports hrefused
  by_cases hflush : r.kind = .flush
  · rw [if_pos hflush]
    exact hsame _ (bare_updateContainer _ _ _)
  · rw [if_neg hflush]
    exact hsame _ rfl

/-- What is seen of a request that starts at a cursor. -/
theorem sendNow_answered (cast : Cast) :
    ∀ (depth : Nat) (w : World Diary) (cursor : Cursor), w.Staged p l halts → w.Wired p wire →
      w.promise r.promise = {} → r.promise < w.promises.length →
      (Roster.ahead l.reverse cursor).length + l.length < depth →
      Answered cast l halts wire r
        (tour cast (.outbound r) w.user.calls (Roster.targets l.reverse cursor r.kind)) w
        (w.sendNow (respond cast.play depth) p cursor r) := by
  intro depth
  induction depth with
  | zero => intro w cursor _ _ _ _ hdepth; omega
  | succ depth ih =>
      intro w cursor h hwire hnew hlen hdepth
      have hkind := r.kind_isInbound
      have hfind := h.hosts.findOutbound hkind cursor
      cases htargets : Roster.targets l.reverse cursor r.kind with
      | nil =>
          -- Past the last handler there is the sink.
          rw [htargets] at hfind
          rw [sendNow, hfind]
          exact sinkRequest_answered h hwire hnew hlen (by omega)
      | cons m ms =>
          have hnd := ids_nodup_reverse.mpr h.hosts.holds.linked.ids_nodup
          rcases targets_cons hnd htargets with ⟨hm, hh, hafter, hlt, -⟩
          have hm : m ∈ l := List.mem_reverse.mp hm
          -- Whoever handles a request is up to the cast.
          rcases custom_of_outbound h hm hkind hh with ⟨tag, htag⟩
          rw [htargets] at hfind
          rw [sendNow, hfind, tour]
          simp only [List.head?_cons, Option.map_some]
          rw [respond_custom htag, Cast.play]
          -- A report goes over the whole chain, and there is depth left for that.
          have hat : (l.ahead (.at m.id)).length ≤ depth + 1 := by
            have := (ahead_suffix l (.at m.id)).length_le
            omega
          cases cast w.user.calls m.id (.outbound r) with
          | stop => exact ⟨rfl, congrArg Promise.outcome hnew, rfl⟩
          | fail cause => exact undelivered_answered h hm hnew hlen hat cause
          | panic payload => exact undelivered_answered h hm hnew hlen hat (.ofPanic payload)
          | proceed =>
              -- The handler passes the request on, one level down.
              have hlater : (w.jot (w.user.calls ++ [⟨m.id, .outbound r⟩])).Staged p l halts :=
                h.of_bare rfl
              rcases byDefault_outbound hlater hm (respond cast.play depth) r with
                ⟨w₁, hw₁, hpass⟩
              have hstaged : (w₁.hold (.pipeline p)).Staged p l halts := (hlater.of_bare hw₁).hold
              have hbare : w₁.bare = w.bare.jot (w.user.calls ++ [⟨m.id, .outbound r⟩]) := hw₁
              rcases parts_of_bare hbare with ⟨hrefused, hpromises, htransports⟩
              have hpipe : w₁.pipelines.map Pipeline.bare = w.pipelines.map Pipeline.bare :=
                congrArg World.pipelines hbare
              have hanswered := ih (w₁.hold (.pipeline p)) (.after m.id) hstaged
                (hwire.congr hpipe htransports) ((promise_congr hpromises r.promise).trans hnew)
                (hpromises ▸ hlen) (by omega)
              have hcalls : (w₁.hold (.pipeline p)).user.calls =
                  w.user.calls ++ [⟨m.id, .outbound r⟩] :=
                congrArg (fun w => w.user.calls) hbare
              rw [hcalls, hafter] at hanswered
              simp only []
              rw [hpass]
              exact (hanswered.from htransports hrefused).release _

/-! ### Asking -/

end World

/-- A request that can be made of a pipeline. -/
inductive Ask where
  | action (action : Action)
  /-- Adds a message to the data that waits at the tail, and flushes it. -/
  | write (msg : Message)
  deriving Inhabited

/-- What is asked of the channel in the end. -/
def Ask.toAction : Ask → Action
  | action a => a
  | write _ => .flush

namespace World

variable {cast : Cast} {w : World Diary} {p : PipelineId} {l : Roster}
  {halts : ContextId → Bool} {wire : Option TransportId}

/-- Makes a request of a pipeline, and gives the promise of its outcome. -/
def ask (w : World Diary) (call : Caller Diary) (p : PipelineId) :
    Ask → PromiseId × World Diary
  | .action a => w.request call p a
  | .write msg => w.write call p msg

theorem ask_promise (w : World Diary) (call : Caller Diary) (p : PipelineId) (ask : Ask) :
    (w.ask call p ask).1 = w.promises.length := by
  cases ask <;> rfl

/-- A request is delivered from the tail of the pipeline on, once its data is in place. -/
theorem ask_eq (h : w.Staged p l halts) (call : Caller Diary) (ask : Ask) :
    ∃ w₁ : World Diary, w₁.bare = w.newPromise.2.bare ∧
      (w.ask call p ask).2 = w₁.sendNow call p .start ⟨ask.toAction, w.newPromise.1⟩ := by
  have hready : w.newPromise.2.Ready p := ⟨h.ready.inLoop, h.ready.kept⟩
  cases ask with
  | action a => exact ⟨w.newPromise.2, rfl, hready.execute call _⟩
  | write msg => exact ⟨_, bare_updateContainer _ _ _, hready.execute call _⟩

/-- A request made of a pipeline of static handlers is delivered to those that handle its
    kind, from tail to head, until one does not pass it on. If that one did nothing, the
    promise stays open. If it failed, the promise is broken with its own error and the
    wrapped one is reported from it on. Past the last one the sink receives the request,
    once, and keeps the promise if there is a channel. -/
theorem ask_answered (cast : Cast) (h : w.Staged p l halts) (hwire : w.Wired p wire)
    (depth : Nat) (hdepth : 2 * l.length < depth) (ask : Ask) :
    let answer := w.ask (respond cast.play depth) p ask
    let r : Request := ⟨ask.toAction, answer.1⟩
    Answered cast l halts wire r
      (tour cast (.outbound r) w.user.calls (l.reverse.filter (·.events.handles r.kind))) w
      answer.2 := by
  intro answer r
  have hpromise : answer.1 = w.newPromise.1 := ask_promise w _ p ask
  rcases ask_eq h (respond cast.play depth) ask with ⟨w₁, hbare, hsend⟩
  have hanswer : answer.2 = w₁.sendNow (respond cast.play depth) p .start r := by
    rw [hsend, ← hpromise]
  have hquiet : w₁.bare = w.newPromise.2.bare.jot w.user.calls := hbare
  rcases parts_of_bare hquiet with ⟨hrefused, hpromises, htransports⟩
  -- The promise was made for this request, so it is open.
  have hnew : w₁.promise r.promise = {} := by
    rw [promise_congr hpromises]
    exact (congrArg w.newPromise.2.promise hpromise).trans (promise_newPromise w)
  have hlen : r.promise < w₁.promises.length := by
    rw [hpromises]
    change answer.1 < (w.promises ++ [({} : Promise)]).length
    rw [hpromise, List.length_append]
    exact Nat.lt_succ_self _
  have hstaged : w.newPromise.2.Staged p l halts := h.congr rfl rfl rfl rfl h.ready.kept
  have hpipe : w₁.pipelines.map Pipeline.bare = w.pipelines.map Pipeline.bare :=
    congrArg World.pipelines hbare
  have hahead : (Roster.ahead l.reverse .start).length + l.length < depth := by
    rw [ahead, List.length_reverse]
    omega
  have hanswered := sendNow_answered cast depth w₁ .start (hstaged.of_bare hquiet)
    (hwire.congr hpipe htransports) hnew hlen hahead
  rw [hanswer]
  rw [calls_of_bare hquiet] at hanswered
  exact hanswered.from htransports hrefused

/-- Two contexts that flushes and closings pass, before a collector. -/
def sampleLine : List Edit :=
  [.insert ⟨0, "a", .ofList [.flush, .close]⟩ .last,
    .insert ⟨1, "b", .ofList [.flush, .close, .exceptionCaught]⟩ .last,
    .insert ⟨2, Handler.collectorName, .inbound⟩ .last]

def sampleWire : World Diary where
  pipelines :=
    [{ chain := (Edit.run Chain.edit {} sampleLine).1
       attachment := some { channel := 0, sink := .embedded 0, loop := .inline } }]
  contexts :=
    [sampleContext "a" [.flush, .close], sampleContext "b" [.flush, .close, .exceptionCaught],
      { pipeline := 0, name := Handler.collectorName, handler := Handler.collector 0 }]
  transports := [{}]
  held := [.pipeline 0]
  user := {}

/-- The first handler fails over every flush. -/
def sampleClog : Cast
  | _, 0, .outbound ⟨.flush, _⟩ => .fail .closed
  | _, _, _ => .proceed

theorem sampleWire_staged :
    sampleWire.Staged 0 (Edit.run Roster.edit [] sampleLine).1 (· = 2) where
  hosts :=
    { holds := (Chain.run_agrees sampleLine {} [] Chain.empty_holds (by decide)).1
      known := by decide
      pipeline := by decide
      name := by decide
      events := by decide
      linked := by decide }
  ready := ⟨rfl, rfl⟩
  custom := fun m hm hh => ⟨0, by revert m; decide⟩
  collector := fun m hm hh => ⟨0, by revert m; decide⟩

/-- A closing gets through, and a flush is broken off. -/
theorem ask_answered_sampleWire :
    let closed := (sampleWire.ask (respond sampleClog.play 7) 0 (.action .close)).2
    let flushed := (sampleWire.ask (respond sampleClog.play 7) 0 (.action .flush)).2
    ((closed.promise 0).outcome = some (.ok ()) ∧ (closed.transport 0).sunk = [.close]) ∧
    (flushed.promise 0).outcome = some (.error .closed) ∧ (flushed.transport 0).sunk = [] ∧
    flushed.user.calls =
      [⟨1, .outbound ⟨.flush, 0⟩⟩, ⟨0, .outbound ⟨.flush, 0⟩⟩,
        ⟨1, .inbound (.exceptionCaught (.handler .flush "a" .closed))⟩] := by
  have hwire : sampleWire.Wired 0 (some 0) := ⟨by decide, _, rfl, rfl⟩
  have hclosed := ask_answered sampleClog sampleWire_staged hwire 7 (by decide) (.action .close)
  have hflushed := ask_answered sampleClog sampleWire_staged hwire 7 (by decide) (.action .flush)
  exact ⟨⟨hclosed.outcome, hclosed.received⟩, hflushed.outcome, hflushed.received,
    hflushed.calls⟩

end World

end Conduit
