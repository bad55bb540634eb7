import Conduit.Proofs.Dispatch.Opening
import Conduit.Proofs.Dispatch.Outbound
import Conduit.Proofs.Outside.Course
import Conduit.Proofs.Turn.Concord

/-!
# Schedules

A pipeline on a queued event loop does nothing where it is asked to. It posts, and what
was posted is done when the loop gets to it. How much is done between two calls is up to
the loop, so between the same calls there are many runs. They all come to the same in
the end, and it is what the inline loop comes to.

The run on the queued loop is behind. At any time it has come as far as the inline run
had come some calls before, and the calls since then wait as tasks, each with the number
of the promise that was made for it. A call adds to what waits, and a task catches up by
one call. That is `Behind`, kept along every schedule, and when nothing waits the two
worlds are the same.

## Main definitions

* `Injection`, `World.injectAll`: What is asked of a pipeline from outside.
* `Beat`: Such a call, or a turn of the event loop.
* `World.Behind`: A world where some calls are still to be carried out.
* `World.Unopened`: Where a schedule starts.

## Theorems

* `Injection.tasks_append`, `Injection.length_tasks`, `Injection.holds_tasks`,
  `Injection.untold`, `Injection.promise_lt`: Calls that wait as tasks.
* `inject_eq`: First promises are made, and then there is work to do.
* `isKept_of_tasks`: Tasks that wait keep no other pipeline.
* `Behind.onThread`, `Behind.keeps`: Where the caller is, and what is held.
* `Behind.inject`: A call is posted.
* `Behind.runTask`, `Behind.takeTasks`, `Behind.runTasks`: A turn of the event loop catches
  up.
* `Behind.beats`: A schedule.
* `unbound_lent`, `channel_lent`, `Vacant.behind`, `Unopened.openEmbedded`: Opening the
  channel.
* `schedule_inline`: Every schedule comes to the same.
* `sampleUnopened_unopened`, `schedule_inline_sampleBeats`: Two handlers, and turns in
  between.
-/

namespace Conduit

/-- What is asked of a pipeline from outside its event loop. -/
inductive Injection where
  | fire (event : InboundEvent)
  | feed (msg : Message)
  | request (action : Action)
  | write (msg : Message)
  deriving Inhabited

/-- A call from outside, or a turn of the event loop. -/
inductive Beat where
  | inject (i : Injection)
  | turn (limit : Nat)
  deriving Inhabited

namespace Injection

def deed {σ : Type} (p : PipelineId) : Injection → Deed σ
  | fire event => .fire p event
  | feed msg => .feed p msg
  | request action => .request p action
  | write msg => .write p msg

/-- The promises that are made for it. -/
def promises : Injection → List Promise
  | fire _ | feed _ => []
  | request _ | write _ => [{}]

/-- The work that it is, with the promise to settle. -/
def job (f : PromiseId) : Injection → Job
  | fire .channelOpen => .open
  | fire .channelActive => .active
  | fire .channelInactive => .inactive
  | fire .messageUpdated => .updated
  | fire event => .fire .start event
  | feed msg => .feed msg
  | request action => .send .start ⟨action, f⟩
  | write msg => .write .start msg f

/-- The tasks that several of them are, one after the other. -/
def tasks (p : PipelineId) : (made : Nat) → List Injection → List Task
  | _, [] => []
  | made, i :: is => .pipeline p (i.job made) :: tasks p (made + i.promises.length) is

theorem tasks_append (p : PipelineId) (is js : List Injection) :
    ∀ made, tasks p made (is ++ js) =
      tasks p made is ++ tasks p (made + (is.flatMap promises).length) js := by
  induction is with
  | nil => intro made; rfl
  | cons i is ih =>
      intro made
      rw [List.cons_append, tasks, ih, tasks, List.cons_append, List.flatMap_cons,
        List.length_append, Nat.add_assoc]

theorem length_tasks (p : PipelineId) (is : List Injection) :
    ∀ made, (tasks p made is).length = is.length := by
  induction is with
  | nil => intro made; rfl
  | cons i is ih => intro made; exact congrArg (· + 1) (ih _)

/-- All of them are for the pipeline. -/
theorem holds_tasks {p q : PipelineId} (h : (p == q) = false) (is : List Injection) :
    ∀ made, (tasks p made is).any (·.holds q) = false := by
  induction is with
  | nil => intro made; rfl
  | cons i is ih =>
      intro made
      rw [tasks, List.any_cons, ih, Bool.or_false]
      exact h

theorem untold {i : Injection} {x : Promise} (hx : x ∈ i.promises) : x.listeners = [] := by
  cases i with
  | fire _ | feed _ => exact absurd hx List.not_mem_nil
  | request _ | write _ =>
      rw [List.mem_singleton.mp hx]

/-- What it promises is due when its promises have been made. -/
theorem promise_lt {i : Injection} {made : Nat} {f : PromiseId}
    (hf : f ∈ (i.job made).promise?) : f < made + i.promises.length := by
  cases i with
  | fire event => cases event <;> exact absurd hf (Option.not_mem_none f)
  | feed msg => exact absurd hf (Option.not_mem_none f)
  | request action => exact Option.mem_some.mp hf ▸ Nat.lt_succ_self made
  | write msg => exact Option.mem_some.mp hf ▸ Nat.lt_succ_self made

end Injection

namespace Beat

def occasion {σ : Type} (p : PipelineId) : Beat → Occasion σ
  | inject i => .deed (i.deed p)
  | turn limit => .turn limit

def injection? : Beat → Option Injection
  | inject i => some i
  | turn _ => none

end Beat

open Roster

namespace World

variable {σ : Type} [Journal σ] {u v w : World σ} {p : PipelineId} {l : Roster}
  {call : Caller σ}

/-- The world with the promises that are made for an injection. -/
def due (w : World σ) (i : Injection) : World σ :=
  { w with promises := w.promises ++ i.promises }

/-- Asks something of a pipeline. -/
def inject (w : World σ) (call : Caller σ) (p : PipelineId) (i : Injection) : World σ :=
  (w.enact call (i.deed p)).2

/-- Asks one thing after the other. -/
def injectAll (w : World σ) (call : Caller σ) (p : PipelineId) (is : List Injection) : World σ :=
  is.foldl (fun w i => w.inject call p i) w

/-- First promises are made, and then there is work to do. -/
theorem inject_eq (w : World σ) (call : Caller σ) (p : PipelineId) (i : Injection) :
    w.inject call p i = (w.due i).execute call p (i.job w.promises.length) := by
  have hnothing : ∀ w : World σ, { w with promises := w.promises ++ [] } = w := by
    intro w
    rw [List.append_nil]
  cases i with
  | fire event =>
      rw [due, Injection.promises, hnothing]
      cases event <;> rfl
  | feed msg =>
      rw [due, Injection.promises, hnothing]
      rfl
  | request action => rfl
  | write msg => rfl

/-- A world that is behind another one: the same but for what is done on the thread of the
    event loop, where some injections wait to be carried out. -/
structure Behind (p : PipelineId) (is : List Injection) (u v : World σ) : Prop where
  like : Likeness (is.flatMap Injection.promises) u v
  held : v.held = u.held
  channels : ∀ ch, (v.channel ch).pipeline = (u.channel ch).pipeline
  pending : v.queue.pending = Injection.tasks p u.promises.length is
  accepting : v.queue.isShutdown = false
  loop : v.loopOf p = .queued
  idle : u.queue.pending = []
  kept : u.isKept p = true

omit [Journal σ] in
/-- Tasks that wait for a pipeline keep it, and it is kept anyway. -/
theorem isKept_of_tasks (hheld : ∀ q, v.held.any (v.pipelineKept · == q) = (p == q || u.isKept q))
    (hkept : u.isKept p = true) {is : List Injection} {made : Nat}
    (hpending : v.queue.pending = Injection.tasks p made is) (q : PipelineId) :
    v.isKept q = u.isKept q := by
  rw [isKept, hheld, hpending]
  cases hq : p == q with
  | true =>
      rw [← beq_iff_eq.mp hq, hkept]
      rfl
  | false => rw [Injection.holds_tasks hq, Bool.false_or, Bool.or_false]

namespace Behind

variable {is : List Injection}

omit [Journal σ] in
/-- It does not matter where the caller is. -/
theorem onThread (h : Behind p is u v) (b : Bool) : Behind p is u { v with inQueueThread := b } :=
  { h with like := { h.like with } }

/-- A call is posted. -/
theorem inject (h : Behind p is u v) (hout : v.inQueueThread = false) (call : Caller σ)
    (i : Injection) :
    Behind p (is ++ [i]) u (v.inject call p i) ∧ (v.inject call p i).inQueueThread = false := by
  -- The loop is a queued one, the caller is not on its thread, and the queue is open.
  have hpost : v.inject call p i =
      { v.due i with
        queue := { v.queue with
          pending := v.queue.pending ++ [.pipeline p (i.job v.promises.length)] } } := by
    have hloop : (v.due i).loopOf p = .queued := h.loop
    have haway : ¬ (v.due i).inLoop .queued = true := by
      rw [inLoop]
      exact Bool.not_eq_true _ ▸ hout
    have haccepting : ¬ (v.due i).queue.isShutdown = true :=
      Bool.not_eq_true _ ▸ h.accepting
    rw [inject_eq, execute, hloop, if_neg haway, TaskQueue.post, if_neg haccepting]
    rfl
  have hlength : v.promises.length =
      u.promises.length + (is.flatMap Injection.promises).length := by
    rw [h.like.promises, List.length_append]
  rw [hpost]
  refine ⟨{ h with like := { h.like with promises := ?_ }, pending := ?_ }, hout⟩
  · change v.promises ++ i.promises = _
    rw [h.like.promises, List.flatMap_append, List.append_assoc, List.flatMap_cons,
      List.flatMap_nil, List.append_nil]
  · change v.queue.pending ++ _ = _
    rw [h.pending, Injection.tasks_append, hlength]
    rfl

omit [Journal σ] in
/-- What is held is the same, and so is the pipeline that it keeps. -/
theorem keeps (h : Behind p is u v) (q : PipelineId) :
    v.held.any (v.pipelineKept · == q) = u.isKept q := by
  have hkept : v.pipelineKept = u.pipelineKept := by
    funext x
    cases x with
    | pipeline p => rfl
    | channel ch => exact h.channels ch
  rw [h.held, hkept, isKept, h.idle]
  exact (Bool.or_false _).symm

omit [Journal σ] in
/-- The setting in which the next task runs. -/
def setting {i : Injection} {rest : TaskQueue Task} (h : Behind p (i :: is) u v)
    (hin : v.inQueueThread = true)
    (hrest : rest.pending = Injection.tasks p (u.promises.length + i.promises.length) is) :
    Setting where
  near := u.surroundings
  far := surroundings { v with queue := rest, held := .pipeline p :: v.held }
  loop := v.loopOf
  made := u.promises.length + i.promises.length
  extra := is.flatMap Injection.promises
  kept := fun q => by
    rw [keeps_surroundings, keeps_surroundings]
    refine isKept_of_tasks (fun q => ?_) h.kept hrest q
    exact congrArg (p == q || ·) (h.keeps q)
  inTurn := hin

/-- The next task catches up by one call. -/
theorem runTask {i : Injection} (h : Behind p (i :: is) u v) (hin : v.inQueueThread = true)
    (hcall : Concurs call) :
    ∃ task rest, v.queue.take? = some (task, rest) ∧
      Behind p is (u.inject call p i) (World.runTask { v with queue := rest } call task) ∧
      (World.runTask { v with queue := rest } call task).inQueueThread = true := by
  obtain ⟨rest, htake, hrest, hshut⟩ : ∃ rest : TaskQueue Task,
      v.queue.take? = some (.pipeline p (i.job u.promises.length), rest) ∧
      rest.pending = Injection.tasks p (u.promises.length + i.promises.length) is ∧
      rest.isShutdown = v.queue.isShutdown := by
    rw [TaskQueue.take?, h.pending]
    exact ⟨_, rfl, rfl, rfl⟩
  refine ⟨_, rest, htake, ?_⟩
  have hinline : u.inject call p i = (u.due i).runJob call p (i.job u.promises.length) := by
    -- The near world has the inline loop, so it works at once.
    have hloop : (u.due i).loopOf p = .inline := h.like.inline p
    rw [inject_eq, execute, hloop]
    rfl
  -- The near world makes the promises now, and the far world has made them long ago.
  have hstart : Counterpart (h.setting hin hrest) (u.due i)
      { v with queue := rest, held := .pipeline p :: v.held } :=
    { h.like with
      promises := by
        change v.promises = (u.promises ++ i.promises) ++ is.flatMap Injection.promises
        rw [h.like.promises, List.flatMap_cons, List.append_assoc]
      untold := fun x hx => (List.mem_append.mp hx).elim (h.like.untold x) Injection.untold
      near := rfl
      far := rfl
      lent := fun _ => rfl
      made := List.length_append }
  obtain ⟨u₂, hu₂⟩ : ∃ u₂, u₂ = (u.due i).runJob call p (i.job u.promises.length) := ⟨_, rfl⟩
  obtain ⟨v₂, hv₂⟩ : ∃ v₂, v₂ =
      runJob { v with queue := rest, held := .pipeline p :: v.held } call p
        (i.job u.promises.length) := ⟨_, rfl⟩
  have hend : Counterpart (h.setting hin hrest) u₂ v₂ := by
    rw [hu₂, hv₂]
    exact hstart.runJob hcall p fun f hf => Injection.promise_lt hf
  have htask : World.runTask { v with queue := rest } call
      (.pipeline p (i.job u.promises.length)) = v₂.release (.pipeline p) := by
    rw [hv₂]
    rfl
  -- What surrounds the work is as it was, in either world.
  have hnear : (u₂.held, u₂.queue, u₂.channels) = (u.held, u.queue, u.channels) :=
    congrArg (fun x : Surroundings => (x.held, x.queue, x.channels)) hend.near
  have hfar : (v₂.held, v₂.queue, v₂.channels, v₂.inQueueThread) =
      (.pipeline p :: v.held, rest, v.channels, v.inQueueThread) :=
    congrArg (fun x : Surroundings => (x.held, x.queue, x.channels, x.inQueueThread)) hend.far
  simp only [Prod.mk.injEq] at hnear hfar
  rw [hinline, ← hu₂, htask]
  refine ⟨?_, hfar.2.2.2.trans hin⟩
  exact {
    like := { hend.toLikeness with }
    held := by
      rw [release, hfar.1, List.erase_cons_head, hnear.1, h.held]
    channels := fun ch => by
      have hchannels := h.channels ch
      rw [channel, channel] at hchannels ⊢
      rwa [release, hfar.2.2.1, hnear.2.2]
    pending := by
      have hmade : u₂.promises.length = u.promises.length + i.promises.length := hend.made
      rw [release, hfar.2.1, hrest, hmade]
    accepting := by
      rw [release, hfar.2.1, hshut, h.accepting]
    loop := (hend.lent p).trans h.loop
    idle := by rw [hnear.2.1, h.idle]
    kept := by
      rw [← keeps_surroundings, hend.near]
      exact (keeps_surroundings u p).trans h.kept }

/-- Some tasks catch up by as many calls, or by all that wait. -/
theorem takeTasks (hcall : Concurs call) :
    ∀ (limit : Nat) {is : List Injection} {u v : World σ}, Behind p is u v →
      v.inQueueThread = true →
      Behind p (is.drop limit) (u.injectAll call p (is.take limit))
          (v.takeTasks call limit).2 ∧
        (v.takeTasks call limit).2.inQueueThread = true := by
  intro limit
  induction limit with
  | zero =>
      intro is u v h hin
      exact ⟨h, hin⟩
  | succ limit ih =>
      intro is u v h hin
      cases is with
      | nil =>
          -- As nothing waits, the turn ends early.
          have htake : v.queue.take? = none := by
            rw [TaskQueue.take?, h.pending]
            rfl
          rw [World.takeTasks, htake]
          exact ⟨h, hin⟩
      | cons i is =>
          rcases h.runTask hin hcall with ⟨task, rest, htake, hbehind, hin₁⟩
          rw [World.takeTasks, htake]
          exact ih hbehind hin₁

/-- A turn of the event loop catches up. -/
theorem runTasks (h : Behind p is u v) (hcall : Concurs call) (limit : Nat) :
    Behind p (is.drop limit) (u.injectAll call p (is.take limit)) (v.runTasks call limit).2 :=
  (takeTasks hcall limit (h.onThread true) rfl).1.onThread _

/-- Along a schedule the far world stays behind, and what it has done and what waits is
    together what was asked for. -/
theorem beats (hcall : Concurs call) :
    ∀ (bs : List Beat) {is : List Injection} {u v : World σ}, Behind p is u v →
      v.inQueueThread = false →
      ∃ js u', Behind p js u' (v.undergoAll call (bs.map (·.occasion p))) ∧
        u'.injectAll call p js =
          u.injectAll call p (is ++ bs.filterMap Beat.injection?) := by
  intro bs
  induction bs with
  | nil =>
      intro is u v h hout
      rw [List.filterMap_nil, List.append_nil]
      exact ⟨is, u, h, rfl⟩
  | cons b bs ih =>
      intro is u v h hout
      cases b with
      | inject i =>
          have hposted := h.inject hout call i
          rcases ih hposted.1 hposted.2 with ⟨js, u', hbehind, hsame⟩
          refine ⟨js, u', hbehind, hsame.trans ?_⟩
          rw [List.append_assoc]
          rfl
      | turn limit =>
          have hout₁ : (v.runTasks call limit).2.inQueueThread = false := hout
          rcases ih (h.runTasks hcall limit) hout₁ with ⟨js, u', hbehind, hsame⟩
          refine ⟨js, u', hbehind, hsame.trans ?_⟩
          -- What the turn has done comes first, and the rest after it.
          rw [injectAll, injectAll, ← List.foldl_append, ← List.append_assoc,
            List.take_append_drop]
          rfl

end Behind

/-! ### Opening the channel -/

/-- A pipeline that is not attached, in a world where no task waits and all pipelines are on the
    inline loop. -/
structure Vacant (w : World σ) (p : PipelineId) : Prop where
  known : p < w.pipelines.length
  unattached : (w.pipeline p).attachment = none
  inline : ∀ q, w.loopOf q = .inline
  untold : ∀ x ∈ w.promises, x.listeners = []
  idle : w.queue.pending = []
  accepting : w.queue.isShutdown = false
  outside : w.inQueueThread = false

/-- The same of a pipeline with handlers, none of which is taken for a collector. -/
structure Unopened (w : World σ) (p : PipelineId) (l : Roster) : Prop extends Vacant w p where
  hosts : w.Hosts p l
  free : Handler.collectorName ∉ names l

omit [Journal σ] in
/-- The loop is all that tells the pipelines apart. -/
theorem unbound_lent (w : World σ) (p : PipelineId) (t : TransportId) (loop : LoopKind) :
    (w.lent p t loop).pipelines.map Pipeline.unbound =
      (w.pipelines.map Pipeline.unbound).modify p ({ · with
        attachment := some ⟨w.channels.length, .embedded t, .inline⟩ }) := by
  rw [lent, updatePipeline]
  exact map_modify_of_commute (by intro x; rfl) w.pipelines p

omit [Journal σ] in
/-- The new channel stands for the pipeline, whichever loop it lends. -/
theorem channel_lent (w : World σ) (p : PipelineId) (t : TransportId) (ch : ChannelId) :
    ((w.lent p t .queued).channel ch).pipeline = ((w.lent p t .inline).channel ch).pipeline := by
  change (((w.channels ++ [_])[ch]?).getD default).pipeline =
    (((w.channels ++ [_])[ch]?).getD default).pipeline
  by_cases hch : ch < w.channels.length
  · rw [List.getElem?_append_left hch, List.getElem?_append_left hch]
  · have hch := Nat.le_of_not_lt hch
    rw [List.getElem?_append_right hch, List.getElem?_append_right hch]
    cases ch - w.channels.length <;> rfl

omit [Journal σ] in
/-- Nothing waits yet when a pipeline has been attached. -/
theorem Vacant.behind (h : w.Vacant p) (t : TransportId) :
    Behind p [] (w.lent p t .inline) (w.lent p t .queued) where
  like := {
    contexts := rfl
    pipelines := (unbound_lent w p t .queued).trans (unbound_lent w p t .inline).symm
    transports := rfl
    woken := rfl
    annals := rfl
    user := rfl
    promises := (List.append_nil _).symm
    untold := h.untold
    inline := fun q => by
      by_cases hq : p = q
      · rw [← hq, loopOf_lent h.known]
      · rw [loopOf, lent, pipeline_updatePipeline_ne hq]
        exact h.inline q }
  held := rfl
  channels := channel_lent w p t
  pending := h.idle
  accepting := h.accepting
  loop := loopOf_lent h.known t .queued
  idle := h.idle
  kept := isKept_lent w p t .inline

/-- The collector is added, the pipeline is attached, and two events are fired. -/
theorem Unopened.openEmbedded (h : w.Unopened p l) (user : Caller σ → Caller σ) (depth : Nat) :
    ∃ w₁ : World σ, w₁.Vacant p ∧ ∀ loop, w.openEmbedded (respond user (depth + 1)) p loop =
      (.ok w₁.channels.length, ((w₁.lent p w.transports.length loop).injectAll
        (respond user (depth + 1)) p [.fire .channelOpen, .fire .channelActive])) := by
  have hhosts : w.newTransport.2.Hosts p l := h.hosts.congr rfl rfl
  rcases add_collector hhosts h.known h.free w.transports.length user depth with ⟨chain, hadd, -⟩
  obtain ⟨w₁, hw₁⟩ : ∃ w₁, w₁ = (w.newTransport.2.newContext p Handler.collectorName
      (.collector w.transports.length)).2.setChain p chain := ⟨_, rfl⟩
  rw [← hw₁] at hadd
  -- To add a handler does not attach anything.
  have hattachment : ∀ q, (w₁.pipeline q).attachment = (w.pipeline q).attachment := by
    intro q
    rw [hw₁]
    exact pipeline_updatePipeline (f := fun x => { x with chain := chain })
      (g := Pipeline.attachment) (fun _ => rfl)
      (w.newTransport.2.newContext p Handler.collectorName (.collector w.transports.length)).2 p q
  have hvacant : w₁.Vacant p :=
    { known := by
        rw [hw₁, setChain, updatePipeline, List.length_modify]
        exact h.known
      unattached := (hattachment p).trans h.unattached
      inline := fun q => by
        rw [loopOf, hattachment]
        exact h.inline q
      untold := hw₁ ▸ h.untold
      idle := hw₁ ▸ h.idle
      accepting := hw₁ ▸ h.accepting
      outside := hw₁ ▸ h.outside }
  exact ⟨w₁, hvacant, openEmbedded_lent hadd hvacant.unattached⟩

/-- A pipeline of static handlers is put on an embedded channel, once on the inline loop and
    once on a queued one, and the same is asked of it from outside. On the queued loop there
    are turns in between, as many and as long as one likes. When what is left is done as well,
    nothing waits, and the two worlds are the same but for the loop that the pipeline is lent:
    the calls of handlers, the outcomes of promises, all containers, and everything else. -/
theorem schedule_inline (cast : Cast) (depth : Nat) {w : World Diary} (h : w.Unopened p l)
    (bs : List Beat) (n : Nat) :
    let call := respond cast.play (depth + 1)
    let near := w.openEmbedded call p .inline
    let far := w.openEmbedded call p .queued
    let u := near.2.injectAll call p (bs.filterMap Beat.injection?)
    let v := far.2.undergoAll call (bs.map (·.occasion p))
    let v' := (v.runTasks call n).2
    near.1.isOk ∧ far.1 = near.1 ∧
      (v.queue.pending.length ≤ n →
        v'.queue.pending = [] ∧ v'.user = u.user ∧ v'.promises = u.promises ∧
          v'.contexts = u.contexts ∧
          v'.pipelines.map Pipeline.unbound = u.pipelines.map Pipeline.unbound ∧
          v'.transports = u.transports ∧ v'.woken = u.woken ∧ v'.annals = u.annals) := by
  intro call near far u v v'
  have hcall : Concurs call := respond_concurs (fun hcall => hcall.play cast) (depth + 1)
  rcases h.openEmbedded cast.play depth with ⟨w₁, hvacant, hopen⟩
  -- Opening the channel is a part of the schedule, as two calls that come before the others.
  obtain ⟨js, u', hbehind, hsame⟩ := (hvacant.behind w.transports.length).beats hcall
    (.inject (.fire .channelOpen) :: .inject (.fire .channelActive) :: bs) hvacant.outside
  have hnear : near = (.ok w₁.channels.length, near.2) := by
    rw [show near = _ from hopen .inline]
  have hfar : far = (.ok w₁.channels.length, far.2) := by
    rw [show far = _ from hopen .queued]
  have hu : u'.injectAll call p js = u := by
    rw [hsame]
    change _ = near.2.injectAll call p _
    rw [show near = _ from hopen .inline]
    rfl
  have hv : v = (w₁.lent p w.transports.length .queued).undergoAll call
      ((.inject (.fire .channelOpen) :: .inject (.fire .channelActive) :: bs).map
        (·.occasion p)) := by
    change far.2.undergoAll call _ = _
    rw [show far = _ from hopen .queued]
    rfl
  rw [← hv] at hbehind
  refine ⟨by rw [hnear]; rfl, by rw [hfar, hnear], fun hn => ?_⟩
  have hlength : js.length ≤ n := by
    rwa [hbehind.pending, Injection.length_tasks] at hn
  have hend : Behind p [] u v' := by
    have hturn := hbehind.runTasks hcall n
    rwa [List.drop_eq_nil_of_le hlength, List.take_of_length_le hlength, hu] at hturn
  have hlike := hend.like
  exact ⟨hend.pending, hlike.user, hlike.promises.trans (List.append_nil _), hlike.contexts,
    hlike.pipelines, hlike.transports, hlike.woken, hlike.annals⟩

/-- Two handlers of requests, the second one of exceptions too. -/
def samplePair : List Edit :=
  [.insert ⟨0, "a", .ofList [.flush, .close]⟩ .last,
    .insert ⟨1, "b", .ofList [.flush, .close, .exceptionCaught]⟩ .last]

def sampleUnopened : World Diary where
  pipelines := [{ chain := (Edit.run Chain.edit {} samplePair).1 }]
  contexts :=
    [sampleContext "a" [.flush, .close], sampleContext "b" [.flush, .close, .exceptionCaught]]
  held := [.pipeline 0]
  user := {}

theorem sampleUnopened_unopened :
    sampleUnopened.Unopened 0 (Edit.run Roster.edit [] samplePair).1 where
  known := by decide
  unattached := rfl
  inline := fun q => by
    cases q <;> rfl
  untold := fun x hx => absurd hx List.not_mem_nil
  idle := rfl
  accepting := rfl
  outside := rfl
  hosts :=
    { holds := (Chain.run_agrees samplePair {} [] Chain.empty_holds (by decide)).1
      known := by decide
      pipeline := by decide
      name := by decide
      events := by decide
      linked := by decide }
  free := by decide

/-- A message is written, three tasks run, and the channel is closed. -/
def sampleBeats : List Beat :=
  [.inject (.write (.u8 7)), .turn 3, .inject (.request .close)]

/-- One task is left after that. The flush fails at the first handler. -/
theorem schedule_inline_sampleBeats :
    let call := respond sampleClog.play (5 + 1)
    let u := (sampleUnopened.openEmbedded call 0 .inline).2.injectAll call 0
      (sampleBeats.filterMap Beat.injection?)
    let v := (sampleUnopened.openEmbedded call 0 .queued).2.undergoAll call
      (sampleBeats.map (·.occasion 0))
    let v' := (v.runTasks call 1).2
    v.queue.pending.length = 1 ∧ v'.queue.pending = [] ∧ v'.user = u.user ∧
      v'.promises = u.promises ∧
      u.user.calls.map (fun x => (x.context, x.callback.name)) =
        [(1, "flush"), (0, "flush"), (1, "exception_caught"), (1, "close"), (0, "close")] := by
  have h := schedule_inline sampleClog 5 sampleUnopened_unopened sampleBeats 1
  dsimp only at h ⊢
  have hdone := h.2.2 (by decide +kernel)
  exact ⟨by decide +kernel, hdone.1, hdone.2.1, hdone.2.2.1, by decide +kernel⟩

end World

end Conduit
