import Conduit.Proofs.Outside.Course

/-!
# Failures That Go No Further

Most failures are somebody's business. A hook that fails is an objection, and a
handler or sink that fails over an event is reported. Some failures are nobody's:
those of handlers over a report, of listeners and of tasks. The library notes them
at most.

That nothing else comes of them is a statement about all that might. It is made here
by comparison. `muffle` turns such a failure into a success together with its note,
`Players.muffled` are players who do so themselves, and whatever the library does with
the one or with the other is the same, down to the last detail of the world. There is
one lemma for each function that calls somebody, and one induction on the depth of the
calls.

## Main definitions

* `World.shrug`, `World.muffle`: A failure that goes no further, made a success.
* `Players.muffled`: Players who do not fail where it goes no further.
* `World.Muffles`: Two callers who differ in nothing else.

## Theorems

* `setUser_of_shrug`, `play_muffled`: A failure that is shrugged off.
* `Muffles.grave`, `Muffles.hook`, `Muffles.outbound`, `Muffles.sink`: Failures that are
  somebody's business.
* `Muffles.tell`, `Muffles.complete`, `Muffles.listen`: Promises.
* `Muffles.raise`, `Muffles.reportFailure`, `Muffles.dispatch`, `Muffles.fireNow`: Inbound.
* `Muffles.sinkRequest`, `Muffles.sendNow`: Outbound.
* `Muffles.start`, `Muffles.activeNow`, `Muffles.openNow`, `Muffles.updatedNow`,
  `Muffles.runJob`, `Muffles.execute`, `Muffles.fire`, `Muffles.request`, `Muffles.write`:
  Jobs.
* `Muffles.executeFor`, `Muffles.fireFrom`, `Muffles.requestWith`, `Muffles.writeFrom`,
  `Muffles.byDefault`: Contexts.
* `Muffles.runTask`, `Muffles.takeTasks`, `Muffles.runTasks`, `Muffles.post`: Turns of the
  event loop.
* `Muffles.hangUp`, `Muffles.carryOut`, `Muffles.refuse`, `Muffles.closeChannel`,
  `Muffles.decodeLoose`, `Muffles.decoderCalled`, `Muffles.textCalled`: The ends of a
  pipeline, and codecs.
* `Muffles.removeContext`, `Muffles.removeFound`, `Muffles.addContext`,
  `Muffles.replaceBetween`, `Muffles.attempt`, `Muffles.openEmbedded`: Changing a pipeline.
* `Muffles.enact`, `Muffles.play`: A deed is the same with either.
* `Muffles.undergoAll`: A run is the same with either.
* `Muffles.played`, `Muffles.handlerCalled`, `Muffles.sinkCalled`, `Muffles.listenerCalled`,
  `Muffles.answer`: Who answers.
* `Muffles.respond`: Muffled players answer as the others do, but for that.
-/

namespace Conduit

variable {σ : Type} [Journal σ]

namespace World

/-- What is left of a failure that goes no further. Any other failure is not shrugged off. -/
def shrug (w : World σ) (cause : Error) : Upcall → Option (World σ)
  | .handler c (.inbound (.exceptionCaught _)) =>
    some (w.notice (.exceptionHandlerFailed (w.context c).name cause))
  | .listener _ _ => some (w.notice .listenerPanicked)
  | .task _ => some w
  | _ => none

/-- An answer, with a success for a failure that goes no further. -/
def muffle (upcall : Upcall) : Outcome × World σ → Outcome × World σ
  | (.ok _, w) => (.ok (), w)
  | (.error cause, w) =>
    match w.shrug cause upcall with
    | some w => (.ok (), w)
    | none => (.error cause, w)

end World

/-- A course that does not fail where it goes no further. -/
def Course.muffled (upcall : Upcall) : Course σ → World σ → Course σ
  | .finish (.ok _), _ => .finish (.ok ())
  | .finish (.error cause), w =>
    match w.shrug cause upcall with
    | some w => .act (.keep fun _ => w.user) fun _ _ => .finish (.ok ())
    | none => .finish (.error cause)
  | .act d next, _ => .act d fun outcome w => (next outcome w).muffled upcall w

/-- Players who do not fail where it goes no further. -/
def Players.muffled (players : Players σ) : Players σ :=
  fun upcall w => (players upcall w).muffled upcall w

namespace World

variable {call call' : Caller σ}

/-- Two callers who differ at most in failures that go no further. -/
def Muffles (call call' : Caller σ) : Prop :=
  ∀ upcall w, call' upcall w = call upcall w ∨ call' upcall w = muffle upcall (call upcall w)

/-- A failure that is shrugged off leaves everything but the user's value alone. -/
theorem setUser_of_shrug {w w' : World σ} {cause : Error} {upcall : Upcall}
    (h : w.shrug cause upcall = some w') : w.setUser w'.user = w' := by
  unfold shrug at h
  split at h
  · cases h
    rfl
  · cases h
    rfl
  · cases h
    rfl
  · cases h

/-- A muffled course ends as the course does, but for that. -/
theorem play_muffled (call : Caller σ) (upcall : Upcall) (course : Course σ) (w : World σ) :
    (course.muffled upcall w).play call w = muffle upcall (course.play call w) := by
  induction course generalizing w with
  | act d next ih => exact ih _ _ _
  | finish outcome =>
      cases outcome with
      | ok _ => rfl
      | error cause =>
          rw [Course.muffled, Course.play, muffle]
          -- The course is over, so nothing happens after the failure but the note.
          cases hshrug : w.shrug cause upcall with
          | none => rfl
          | some w' => exact congrArg (Except.ok (), ·) (setUser_of_shrug hshrug)

namespace Muffles

variable (h : Muffles call call') (w : World σ)
include h

/-- Where a failure is somebody's business, the answers are the same. -/
theorem grave {upcall : Upcall} (hgrave : ∀ cause (w : World σ), w.shrug cause upcall = none) :
    call' upcall w = call upcall w := by
  rcases h upcall w with heq | heq
  · exact heq
  · rw [heq]
    cases hcall : call upcall w with
    | mk outcome w₁ =>
        cases outcome with
        | ok _ => rfl
        | error cause => rw [muffle, hgrave]

theorem hook (c : ContextId) (hook : Hook) : w.callHook call' c hook = w.callHook call c hook :=
  h.grave w fun _ _ => rfl

theorem outbound (c : ContextId) (r : Request) :
    call' (.handler c (.outbound r)) w = call (.handler c (.outbound r)) w :=
  h.grave w fun _ _ => rfl

theorem sink (p : PipelineId) (sink : Sink) (ask : SinkCall) :
    call' (.sink p sink ask) w = call (.sink p sink ask) w :=
  h.grave w fun _ _ => rfl

/-! ### Promises -/

/-- A listener that fails is noted, and one that does not fail notes it itself. -/
theorem tell (l : Listener) (f : PromiseId) : w.tell call' l f = w.tell call l f := by
  rw [World.tell, World.tell]
  rcases h (.listener l f) w with heq | heq
  · rw [heq]
  · rw [heq]
    cases call (.listener l f) w with
    | mk outcome w₁ => cases outcome <;> rfl

theorem complete (f : PromiseId) (outcome : Outcome) :
    w.complete call' f outcome = w.complete call f outcome := by
  simp only [World.complete, h.tell]

theorem listen (f : PromiseId) (l : Listener) : w.listen call' f l = w.listen call f l := by
  simp only [World.listen, h.tell]

/-! ### Inbound -/

/-- A handler that fails over a report is noted, and one that does not fail notes it itself. -/
theorem raise (p : PipelineId) (cursor : Cursor) (cause : Error) :
    w.raise call' p cursor cause = w.raise call p cursor cause := by
  rw [World.raise, World.raise, World.dispatch, World.dispatch]
  by_cases hstart : cursor = .start ∧ (w.chain p).hasInbound = false
  · rw [if_pos hstart, if_pos hstart]
  · rw [if_neg hstart, if_neg hstart]
    cases (w.chain p).findInbound cursor (InboundEvent.exceptionCaught cause).kind with
    | none => rfl
    | some c =>
        dsimp only
        -- The one call is noted by the library, and the other has noted it.
        rcases h (.handler c (.inbound (.exceptionCaught cause))) w with heq | heq
        · rw [heq]
        · rw [heq]
          cases call (.handler c (.inbound (.exceptionCaught cause))) w with
          | mk outcome w₁ => cases outcome <;> rfl

theorem reportFailure (p : PipelineId) (c : ContextId) (kind : EventKind) (cause : Error) :
    w.reportFailure call' p c kind cause = w.reportFailure call p c kind cause :=
  h.raise w p _ _

/-- Any other event is delivered alike, if a failure over it is met alike. -/
theorem dispatch {event : InboundEvent}
    (hgrave : ∀ c cause (w : World σ), w.shrug cause (.handler c (.inbound event)) = none)
    {failed failed' : ContextId → Error → World σ → World σ}
    (hfailed : ∀ c cause w, failed' c cause w = failed c cause w) (p : PipelineId)
    (cursor : Cursor) :
    w.dispatch call' p cursor event failed' = w.dispatch call p cursor event failed := by
  simp only [World.dispatch, h.grave w (hgrave _), hfailed]

theorem fireNow (p : PipelineId) (cursor : Cursor) (event : InboundEvent) :
    w.fireNow call' p cursor event = w.fireNow call p cursor event := by
  cases event with
  | exceptionCaught cause => exact h.raise w p cursor cause
  | messageUpdated =>
      exact h.dispatch w (fun _ _ _ => rfl) (fun c cause _ => h.reportFailure _ p c _ cause) p
        cursor
  | _ =>
      exact h.dispatch w (fun _ _ _ => rfl) (fun c cause _ => h.reportFailure _ p c _ cause) p
        cursor

/-! ### Outbound -/

theorem sinkRequest (p : PipelineId) (r : Request) :
    w.sinkRequest call' p r = w.sinkRequest call p r := by
  simp only [World.sinkRequest, h.sink, h.complete, h.raise]

theorem sendNow (p : PipelineId) (cursor : Cursor) (r : Request) :
    w.sendNow call' p cursor r = w.sendNow call p cursor r := by
  simp only [World.sendNow, h.outbound, h.complete, h.reportFailure, h.sinkRequest]

/-! ### Jobs -/

theorem start (p : PipelineId) (e : Pulse) : w.start call' p e = w.start call p e := by
  simp only [World.start, h.fireNow]

theorem activeNow (p : PipelineId) : w.activeNow call' p = w.activeNow call p := by
  simp only [World.activeNow, h.start]

theorem openNow (p : PipelineId) : w.openNow call' p = w.openNow call p := by
  simp only [World.openNow, h.start, h.activeNow]

theorem updatedNow (p : PipelineId) : w.updatedNow call' p = w.updatedNow call p := by
  simp only [World.updatedNow, h.start]

theorem runJob (p : PipelineId) (job : Job) : w.runJob call' p job = w.runJob call p job := by
  cases job with
  | «open» => exact h.openNow _ p
  | active => exact h.activeNow _ p
  | inactive => exact h.start _ p .deactivated
  | updated => exact h.updatedNow _ p
  | fire cursor event => exact h.fireNow w p cursor event
  | feed msg => rfl
  | send cursor r => exact h.sendNow w p cursor r
  | write cursor msg promise => exact h.sendNow _ p cursor _

theorem execute (p : PipelineId) (job : Job) : w.execute call' p job = w.execute call p job := by
  simp only [World.execute, h.runJob, h.complete]

theorem fire (p : PipelineId) (event : InboundEvent) :
    w.fire call' p event = w.fire call p event :=
  h.execute w p _

theorem request (p : PipelineId) (action : Action) :
    w.request call' p action = w.request call p action := by
  simp only [World.request, h.execute]

theorem write (p : PipelineId) (msg : Message) : w.write call' p msg = w.write call p msg := by
  simp only [World.write, h.execute]

/-! ### Contexts -/

theorem executeFor (c : ContextId) (job : Job) :
    w.executeFor call' c job = w.executeFor call c job := by
  simp only [World.executeFor, h.execute]

theorem fireFrom (c : ContextId) (event : InboundEvent) :
    w.fireFrom call' c event = w.fireFrom call c event := by
  simp only [World.fireFrom, h.executeFor]

theorem requestWith (c : ContextId) (r : Request) :
    w.requestWith call' c r = w.requestWith call c r := by
  simp only [World.requestWith, h.executeFor, h.complete]

theorem writeFrom (c : ContextId) (msg : Message) :
    w.writeFrom call' c msg = w.writeFrom call c msg := by
  simp only [World.writeFrom, h.executeFor, h.complete]

theorem byDefault (c : ContextId) (callback : Callback) :
    w.byDefault call' c callback = w.byDefault call c callback := by
  unfold World.byDefault
  simp only [h.fireFrom, h.requestWith]

/-! ### Turns of the event loop -/

theorem runTask (task : Task) : w.runTask call' task = w.runTask call task := by
  cases task with
  | pipeline p job => simp only [World.runTask, h.runJob]
  | custom tag =>
      rw [World.runTask, World.runTask]
      rcases h (.task tag) w with heq | heq
      · rw [heq]
      · rw [heq]
        cases call (.task tag) w with
        | mk outcome w₁ => cases outcome <;> rfl

theorem takeTasks (limit : Nat) : w.takeTasks call' limit = w.takeTasks call limit := by
  induction limit generalizing w with
  | zero => rfl
  | succ limit ih => simp only [World.takeTasks, h.runTask, ih]

theorem runTasks (limit : Nat) : w.runTasks call' limit = w.runTasks call limit := by
  simp only [World.runTasks, h.takeTasks]

theorem post (loop : LoopKind) (task : Task) : w.post call' loop task = w.post call loop task := by
  simp only [World.post, h.runTask]

/-! ### The ends of a pipeline -/

theorem hangUp (p : PipelineId) (t : TransportId) (f : PromiseId) :
    w.hangUp call' p t f = w.hangUp call p t f := by
  simp only [World.hangUp, h.complete, h.fire]

theorem carryOut (p : PipelineId) (t : TransportId) (ask : SinkCall) :
    w.carryOut call' p t ask = w.carryOut call p t ask := by
  cases ask with
  | sunk r => simp only [World.carryOut, World.perform, h.hangUp, h.complete]
  | exceptionCaught cause => exact h.fire w p (.exceptionCaught cause)

theorem refuse (p : PipelineId) (ask : SinkCall) : w.refuse call' p ask = w.refuse call p ask := by
  cases ask with
  | sunk r => simp only [World.refuse, h.complete]
  | exceptionCaught cause => rfl

theorem closeChannel (ch : ChannelId) : w.closeChannel call' ch = w.closeChannel call ch := by
  simp only [World.closeChannel, h.request]

/-! ### Codecs -/

theorem decodeLoose {δ : Type} (c : ContextId) (d : Decoder δ) (state : δ)
    (keep : δ → World σ → World σ) (atEnd : Bool) :
    w.decodeLoose call' c d state keep atEnd = w.decodeLoose call c d state keep atEnd := by
  simp only [World.decodeLoose, World.handOn, h.fireFrom]

theorem decoderCalled {δ : Type} (c : ContextId) (d : Decoder δ) (state : δ)
    (keep : δ → World σ → World σ) (callback : Callback) :
    w.decoderCalled call' c d state keep callback =
      w.decoderCalled call c d state keep callback := by
  unfold World.decoderCalled
  simp only [World.decodeInbound, World.decodeRest, h.decodeLoose, h.fireFrom, h.byDefault]

theorem textCalled (c : ContextId) (order : ByteOrder) (callback : Callback) :
    w.textCalled call' c order callback = w.textCalled call c order callback := by
  unfold World.textCalled
  simp only [World.textInbound, World.textOutbound, World.handOn, h.fireFrom, h.requestWith,
    h.byDefault]

/-! ### Changing a pipeline -/

theorem removeContext (p : PipelineId) (c : ContextId) :
    w.removeContext call' p c = w.removeContext call p c := by
  simp only [World.removeContext, h.hook]

theorem removeFound (p : PipelineId) (found : Option ContextId) (absence : AbsenceFault) :
    w.removeFound call' p found absence = w.removeFound call p found absence := by
  simp only [World.removeFound, h.removeContext]

theorem addContext (p : PipelineId) (position : Position) (c : ContextId) :
    w.addContext call' p position c = w.addContext call p position c := by
  simp only [World.addContext, World.undoAdd, h.hook, h.removeContext]

theorem replaceBetween (p : PipelineId) (old new : ContextId) :
    w.replaceBetween call' p old new = w.replaceBetween call p old new := by
  simp only [World.replaceBetween, World.settleReplacement, h.hook]

theorem attempt (p : PipelineId) (m : Move) : w.attempt call' p m = w.attempt call p m := by
  cases m with
  | add position name hd => simp only [World.attempt, World.add, h.addContext]
  | replace oldName newName hd =>
      simp only [World.attempt, World.replace, World.replaceAtEnd, h.removeContext, h.addContext,
        h.replaceBetween]
  | _ =>
      simp only [World.attempt, World.remove, World.removeFirst, World.removeLast,
        World.removeHandler, h.removeFound]

theorem openEmbedded (p : PipelineId) (loop : LoopKind) :
    w.openEmbedded call' p loop = w.openEmbedded call p loop := by
  simp only [World.openEmbedded, World.add, h.addContext, h.fire]

/-- A deed is the same with either. -/
theorem enact (d : Deed σ) : w.enact call' d = w.enact call d := by
  cases d with
  | settle f outcome => simp only [World.enact, h.complete]
  | listen f l => simp only [World.enact, h.listen]
  | move p m => exact h.attempt w p m
  | fire p event => simp only [World.enact, h.fire]
  | feed p msg => simp only [World.enact, World.feed, h.execute]
  | request p action => simp only [World.enact, h.request]
  | write p msg => simp only [World.enact, h.write]
  | fireFrom c event => simp only [World.enact, h.fireFrom]
  | requestWith c r => simp only [World.enact, h.requestWith]
  | writeFrom c msg => simp only [World.enact, h.writeFrom]
  | proceed c callback => simp only [World.enact, h.byDefault]
  | openEmbedded p loop => simp only [World.enact, h.openEmbedded]
  | post loop tag => exact h.post w loop _
  | _ => rfl

theorem play (course : Course σ) : course.play call' w = course.play call w := by
  induction course generalizing w with
  | finish outcome => rfl
  | act d next ih => simp only [Course.play, h.enact, ih]

/-- A run is the same with either. -/
theorem undergoAll (occasions : List (Occasion σ)) :
    w.undergoAll call' occasions = w.undergoAll call occasions := by
  refine congrArg (List.foldl · w occasions) (funext fun w => funext fun o => ?_)
  cases o with
  | deed d => exact congrArg Prod.snd (h.enact w d)
  | turn limit => exact congrArg Prod.snd (h.runTasks w limit)

/-! ### Who answers -/

/-- The players of a user, and the same ones muffled, when either caller is handed out. -/
theorem played (players : Players σ) (upcall : Upcall) :
    players.muffled.play call' upcall w = muffle upcall (players.play call upcall w) := by
  rw [Players.play, Players.muffled, play_muffled, h.play, Players.play]

section Library

variable {user user' : Caller σ}
  (huser : ∀ upcall w, user' upcall w = muffle upcall (user upcall w))
include huser

/-- Handlers of the library do not fail over reports. -/
theorem handlerCalled (c : ContextId) (callback : Callback) :
    w.handlerCalled call' user' c callback = w.handlerCalled call user c callback ∨
      w.handlerCalled call' user' c callback =
        muffle (.handler c callback) (w.handlerCalled call user c callback) := by
  unfold World.handlerCalled
  cases (w.context c).handler.role with
  | custom tag => exact .inr (huser _ w)
  | passive => exact .inl (congrArg (Except.ok (), ·) (h.byDefault w c callback))
  | lines framer => exact .inl (h.decoderCalled w c _ _ _ callback)
  | text order => exact .inl (h.textCalled w c order callback)
  | collector t =>
      refine .inl ?_
      cases callback with
      | inbound event => rfl
      | _ => exact congrArg (Except.ok (), ·) (h.byDefault w c _)

theorem sinkCalled (p : PipelineId) (sink : Sink) (ask : SinkCall) :
    w.sinkCalled call' user' p sink ask = w.sinkCalled call user p sink ask ∨
      w.sinkCalled call' user' p sink ask =
        muffle (.sink p sink ask) (w.sinkCalled call user p sink ask) := by
  cases sink with
  | custom tag => exact .inr (huser _ w)
  | discarding => exact .inl (h.refuse w p ask)
  | embedded t => exact .inl (congrArg (Except.ok (), ·) (h.carryOut w p t ask))

theorem listenerCalled (l : Listener) (f : PromiseId) :
    w.listenerCalled call' user' l f = w.listenerCalled call user l f ∨
      w.listenerCalled call' user' l f =
        muffle (.listener l f) (w.listenerCalled call user l f) := by
  cases l with
  | custom tag => exact .inr (huser _ w)
  | closeOnComplete ch => exact .inl (congrArg (Except.ok (), ·) (h.closeChannel w ch))
  | closeOnFailure ch =>
      refine .inl ?_
      simp only [World.listenerCalled, h.closeChannel]

theorem answer : Muffles (World.answer call user) (World.answer call' user') := by
  intro upcall w
  cases upcall with
  | handler c callback => exact h.handlerCalled w huser c callback
  | sink p sink ask => exact h.sinkCalled w huser p sink ask
  | listener l f => exact h.listenerCalled w huser l f
  | task tag => exact .inr (huser _ w)

end Library

omit h in
/-- Muffled players answer as the others do, but for that, however deeply the calls are
    nested. -/
theorem respond (players : Players σ) (depth : Nat) :
    Muffles (World.respond players.play depth) (World.respond players.muffled.play depth) := by
  induction depth with
  | zero => exact fun upcall w => .inl rfl
  | succ depth ih => exact ih.answer (fun upcall w => ih.played w players upcall)

end Muffles
end World
end Conduit
