import Conduit.Proofs.Outside.Steady

/-!
# What Arbitrary Handlers Preserve

The knot of handlers that call the library and a library that calls handlers, cut
once. A relation between a world and what becomes of it `Endures` if it follows
from an unchanged figure, if it can be composed, and if it holds over everything that
changes the figure: over a pulse, and over every call that rearranges a pipeline, as long
as it holds over what such a call calls; and where a pipeline is made or detached. Then
it holds over everything: whatever handlers, sinks, listeners and tasks there are,
and however deeply they are nested.

It is a relation and not a property because a call that rearranges a pipeline is
interrupted by hooks, and has to rely on what those leave as it was. One that follows from
an unchanged outline `Abides` if it is kept by those calls; the rest does not show in it.

## Main definitions

* `World.Heeds`: A relation holds over whatever is called.
* `World.Endures`: A relation that the library and arbitrary handlers keep.
* `World.Abides`: One of the outline that they keep.

## Theorems

* `figure_foldl_notice`, `figure_newChannel`, `figure_newTransport`, `figure_attach`: What
  leaves the figure alone.
* `outline_detach`, `outline_newPipeline`: What leaves the outline alone.
* `Robust.collect`, `Robust.hangUp`, `Robust.perform`, `Robust.carryOut`, `Robust.refuse`:
  What the ends of a pipeline do.
* `Robust.handOn`, `Robust.decodeLoose`, `Robust.decoderCalled`, `Robust.textInbound`,
  `Robust.textOutbound`, `Robust.textCalled`: What codecs do.
* `Robust.handlerCalled`, `Robust.sinkCalled`, `Robust.closeChannel`,
  `Robust.listenerCalled`, `Robust.answer`: Who answers.
* `Endures.refl`, `Endures.stolid`, `Endures.robust`: To be what has become of a world.
* `Endures.openEmbedded`, `Endures.enact`, `Endures.course`: It holds over a deed.
* `Endures.answer`, `Endures.respond`: It holds over whatever players answer.
* `Endures.undergoAll`: It holds over a run.
* `Abides.steady`, `Abides.endures`, `Abides.respond`, `Abides.undergoAll`: A relation of the
  outline is among them.
-/

namespace Conduit.World

variable {σ : Type} {w w' : World σ} {call user : Caller σ} {I : World σ → Prop}
  {R : World σ → World σ → Prop}

theorem figure_foldl_notice [Journal σ] (notices : List Notice) :
    ∀ w : World σ, (notices.foldl notice w).figure = w.figure := by
  induction notices with
  | nil => intro w; rfl
  | cons n notices ih => intro w; exact ih (w.notice n)

theorem figure_newChannel (w : World σ) (ch : Channel) :
    (w.newChannel ch).2.figure = w.figure := rfl

theorem figure_newTransport [Journal σ] (w : World σ) :
    w.newTransport.2.figure = w.figure := rfl

theorem figure_attach (w : World σ) (p : PipelineId) (ch : ChannelId) (sink : Sink) :
    (w.attach p ch sink).2.figure = w.figure := by
  rw [attach]
  cases (w.pipeline p).attachment with
  | none => exact figure_updatePipeline (by intro x; exact ⟨rfl, rfl⟩) w p
  | some _ => rfl

theorem outline_detach (w : World σ) (p : PipelineId) : (w.detach p).outline = w.outline := by
  rw [detach]
  cases (w.pipeline p).attachment with
  | none => rfl
  | some _ => exact outline_updatePipeline (by intro x; rfl) w p

/-- A pipeline without handlers is as good as none. -/
theorem outline_newPipeline (w : World σ) :
    outline { w with pipelines := w.pipelines ++ [{}] } = w.outline := by
  refine congrArg (·, w.contexts.map Context.outline) (funext fun p => ?_)
  rw [chain, chain, pipeline, pipeline]
  by_cases hp : p < w.pipelines.length
  · rw [List.getElem?_append_left hp]
  · have hp := Nat.le_of_not_lt hp
    rw [List.getElem?_append_right hp, List.getElem?_eq_none hp]
    cases p - w.pipelines.length <;> rfl

namespace Robust

variable [Journal σ] (h : Robust I call) (hw : I w)
include h hw

/-! ### The ends of a pipeline -/

theorem collect (c : ContextId) (t : TransportId) (event : InboundEvent) :
    I (w.collect c t event) := by
  cases event with
  | exceptionCaught cause => exact h.same hw rfl
  | userEventTriggered msg => exact h.same hw rfl
  | messageUpdated => exact h.same hw (by simp [World.collect])
  | _ => exact hw

theorem hangUp (p : PipelineId) (t : TransportId) (f : PromiseId) :
    I (w.hangUp call p t f) := by
  have hclosed : I (w.updateTransport t ({ · with isActive := false, isOpen := false })) :=
    h.same hw rfl
  have hkept := h.complete hclosed f (.ok ())
  rw [World.hangUp]
  cases (w.transport t).isActive with
  | true => exact h.fire hkept p .channelInactive
  | false => exact hkept

theorem perform (p : PipelineId) (t : TransportId) (r : Request) :
    I (w.perform call p t r) := by
  have hsunk : I (w.updateTransport t fun x => { x with sunk := x.sunk ++ [r.kind] }) :=
    h.same hw rfl
  obtain ⟨action, f⟩ := r
  cases action with
  | bind address => exact h.complete (h.same hsunk (figure_updateTransport _ t _)) f _
  | connect remote origin => exact h.complete (h.same hsunk (figure_updateTransport _ t _)) f _
  | disconnect => exact h.hangUp hsunk p t f
  | close => exact h.hangUp hsunk p t f
  | flush => exact h.complete (h.same hsunk (figure_deliver _ (.sink p) t .outbound)) f _

theorem carryOut (p : PipelineId) (t : TransportId) (ask : SinkCall) :
    I (w.carryOut call p t ask) := by
  cases ask with
  | sunk r => exact h.perform hw p t r
  | exceptionCaught cause => exact h.fire hw p (.exceptionCaught cause)

theorem refuse (p : PipelineId) (ask : SinkCall) : I (w.refuse call p ask).2 := by
  cases ask with
  | sunk r =>
      have hcleared : I ((w.updateContainer (.sink p) (·.clear)).notice (.notAttached r.kind)) :=
        h.same hw (by simp)
      exact h.complete hcleared r.promise _
  | exceptionCaught cause => exact hw

/-! ### Codecs -/

section Codec

variable {δ : Type} {keep : δ → World σ → World σ}

theorem handOn (c : ContextId) (msgs : List Message) : I (w.handOn call c msgs) := by
  rw [World.handOn]
  by_cases hempty : msgs.isEmpty = true
  · rw [if_pos hempty]
    exact hw
  · rw [if_neg hempty]
    exact h.fireFrom (h.same hw (by simp)) c _

variable (hkeep : ∀ state w, I w → I (keep state w))
include hkeep

theorem decodeLoose (c : ContextId) (d : Decoder δ) (state : δ) (atEnd : Bool) :
    I (w.decodeLoose call c d state keep atEnd).2 := by
  rw [World.decodeLoose]
  dsimp only
  have hkept : ∀ (own : Container) (state : δ) (notices : List Notice),
      I (keep state (notices.foldl notice (w.setContainer (.inbound c) own))) :=
    fun own state notices => hkeep state _ (h.same hw (by simp [figure_foldl_notice]))
  split
  · exact hkept _ _ _
  · exact h.handOn (hkept _ _ _) c _

theorem decoderCalled (c : ContextId) (d : Decoder δ) (state : δ) (callback : Callback) :
    I (w.decoderCalled call c d state keep callback).2 := by
  unfold World.decoderCalled
  split
  · exact h.decodeLoose hw hkeep c d state false
  · have hrest := h.decodeLoose hw hkeep c d state true
    rw [World.decodeRest]
    cases hdecode : w.decodeLoose call c d state keep true with
    | mk ending w₁ =>
        rw [hdecode] at hrest
        -- After a panic the event is not passed on.
        cases ending with
        | panicked cause => exact hrest
        | _ => exact h.fireFrom hrest c .channelInactive
  · exact h.byDefault hw c _

omit hkeep

theorem textInbound (c : ContextId) : I (w.textInbound call c).2 := by
  rw [World.textInbound]
  dsimp only
  have hdecoded : ∀ (own : Container) (decoded : List Message),
      I ((w.setContainer (.inbound c) own).handOn call c decoded) :=
    fun own decoded => h.handOn (h.same hw (by simp)) c decoded
  split
  · exact hdecoded _ _
  · exact hdecoded _ _

theorem textOutbound (c : ContextId) (order : ByteOrder) (f : PromiseId) :
    I (w.textOutbound call c order f) :=
  h.requestWith (h.same hw (by simp)) c _

theorem textCalled (c : ContextId) (order : ByteOrder) (callback : Callback) :
    I (w.textCalled call c order callback).2 := by
  unfold World.textCalled
  split
  · exact h.textInbound hw c
  · exact h.textOutbound hw c order _
  · exact h.byDefault hw c _

end Codec

/-! ### Who answers -/

variable (huser : ∀ upcall w, I w → I (user upcall w).2)

include huser in
theorem handlerCalled (c : ContextId) (callback : Callback) :
    I (w.handlerCalled call user c callback).2 := by
  rw [World.handlerCalled]
  split
  · exact h.byDefault hw c callback
  · -- The state of a framer is not part of the structure.
    refine h.decoderCalled hw (fun framer w hw => h.same hw ?_) c _ _ callback
    exact figure_updateContext (by intro x; rfl) w c
  · exact h.textCalled hw c _ callback
  · split
    · exact h.collect hw c _ _
    · exact h.byDefault hw c _
  · exact huser _ w hw

include huser in
theorem sinkCalled (p : PipelineId) (sink : Sink) (ask : SinkCall) :
    I (w.sinkCalled call user p sink ask).2 := by
  cases sink with
  | discarding => exact h.refuse hw p ask
  | embedded t => exact h.carryOut hw p t ask
  | custom tag => exact huser _ w hw

theorem closeChannel (ch : ChannelId) : I (w.closeChannel call ch) := by
  rw [World.closeChannel]
  by_cases hheld : w.isHeld ch = true
  · rw [if_pos hheld]
    exact h.same (h.request (h.same hw (figure_hold w (.channel ch))) _ .close)
      (figure_release _ _)
  · rw [if_neg hheld]
    exact hw

include huser in
theorem listenerCalled (l : Listener) (f : PromiseId) :
    I (w.listenerCalled call user l f).2 := by
  cases l with
  | closeOnComplete ch => exact h.closeChannel hw ch
  | closeOnFailure ch =>
      rw [World.listenerCalled]
      by_cases hfailed : (w.promise f).cause.isSome = true
      · rw [if_pos hfailed]
        exact h.closeChannel hw ch
      · rw [if_neg hfailed]
        exact hw
  | custom tag => exact huser _ w hw

include huser in
theorem answer (upcall : Upcall) : I (World.answer call user upcall w).2 := by
  cases upcall with
  | handler c callback => exact h.handlerCalled hw huser c callback
  | sink p sink ask => exact h.sinkCalled hw huser p sink ask
  | listener l f => exact h.listenerCalled hw huser l f
  | task tag => exact huser _ w hw

end Robust

/-! ### Relations -/

/-- A relation holds over whatever is called. -/
def Heeds (R : World σ → World σ → Prop) (call : Caller σ) : Prop :=
  ∀ upcall w, R w (call upcall w).2

/-- A relation between a world and what becomes of it, which the library and arbitrary
    handlers keep. -/
structure Endures [Journal σ] (R : World σ → World σ → Prop) : Prop where
  same : ∀ {w w'}, w'.figure = w.figure → R w w'
  trans : ∀ {a b c}, R a b → R b c → R a c
  pulse : ∀ {call}, Heeds R call → ∀ (w : World σ) (p : PipelineId) (e : Pulse),
    R w (w.runJob call p e.job)
  move : ∀ {call}, Heeds R call → ∀ (w : World σ) (p : PipelineId) (m : Move), R w (w.move call p m)
  detach : ∀ (w : World σ) (p : PipelineId), R w (w.detach p)
  newPipeline : ∀ w : World σ, R w { w with pipelines := w.pipelines ++ [{}] }

namespace Endures

variable [Journal σ] (h : Endures R)
include h

theorem refl (w : World σ) : R w w := h.same rfl

theorem stolid (hcall : Heeds R call) (w₀ : World σ) : Stolid (R w₀) call where
  same := fun hw hsame => h.trans hw (h.same hsame)
  call := fun upcall w hw => h.trans hw (hcall upcall w)

/-- To be what has become of some world is preserved by all that the library does. -/
theorem robust (hcall : Heeds R call) (w₀ : World σ) : Robust (R w₀) call where
  toStolid := h.stolid hcall w₀
  pulse := fun w p e hw => h.trans hw (h.pulse hcall w p e)

theorem openEmbedded (hcall : Heeds R call) (w : World σ) (p : PipelineId) (loop : LoopKind) :
    R w (w.openEmbedded call p loop).2 := by
  have hs := h.robust hcall w
  -- The collector is added first, so hooks run before there is a channel.
  have hadded := h.trans (h.same (figure_newTransport w))
    (h.move hcall w.newTransport.2 p
      (.add .last Handler.collectorName (.collector w.newTransport.1)))
  rw [World.openEmbedded]
  dsimp only [World.move] at hadded ⊢
  cases hadd : w.newTransport.2.add call p .last Handler.collectorName
      (.collector w.newTransport.1) with
  | mk outcome w₁ =>
      rw [hadd] at hadded
      cases outcome with
      | error cause => exact hadded
      | ok _ =>
          dsimp only
          -- The channel is named, since three of its parts are looked at below.
          obtain ⟨made, hmade⟩ : ∃ made, made =
            w₁.newChannel { pipeline := p, loop, backing := .embedded w.newTransport.1 } := ⟨_, rfl⟩
          have hchannel : R w made.2 := hs.same hadded (hmade ▸ figure_newChannel w₁ _)
          have hattached := hs.same hchannel
            (figure_attach made.2 p made.1 (.embedded w.newTransport.1))
          rw [← hmade]
          cases hattach : made.2.attach p made.1 (.embedded w.newTransport.1) with
          | mk outcome w₂ =>
              rw [hattach] at hattached
              cases outcome with
              | error cause => exact hs.same hattached rfl
              | ok _ => exact hs.fire (hs.fire hattached p .channelOpen) p .channelActive

/-- It holds over a deed. -/
theorem enact (hcall : Heeds R call) (w : World σ) (d : Deed σ) : R w (w.enact call d).2 := by
  have hs := h.robust hcall w
  have hw := h.refl w
  -- What keeps to itself leaves the figure alone, and all else is done by the library.
  cases d with
  | keep f => exact h.same rfl
  | fill place content => exact h.same (figure_setContainer w place content)
  | reach t f => exact h.same rfl
  | hold x => exact h.same rfl
  | release x => exact h.same rfl
  | promise => exact h.same rfl
  | settle f outcome => exact hs.complete hw f outcome
  | listen f l => exact hs.listen hw f l
  | poll f waker => exact h.same rfl
  | move p m =>
      rw [World.enact, attempt_world]
      exact h.move hcall w p m
  | fire p event => exact hs.fire hw p event
  | feed p msg => exact hs.feed hw p msg
  | request p action => exact hs.request hw p action
  | write p msg => exact hs.write hw p msg
  | fireFrom c event => exact hs.fireFrom hw c event
  | requestWith c r => exact hs.requestWith hw c r
  | writeFrom c msg => exact hs.writeFrom hw c msg
  | proceed c callback => exact hs.byDefault hw c callback
  | newPipeline => exact h.newPipeline w
  | newChannel ch => exact h.same rfl
  | attach p ch sink => exact h.same (figure_attach w p ch sink)
  | detach p => exact h.detach w p
  | openEmbedded p loop => exact h.openEmbedded hcall w p loop
  | post loop tag => exact hs.post hw loop _
  | shutdown => exact h.same rfl

theorem course (hcall : Heeds R call) (course : Course σ) (w : World σ) :
    R w (course.play call w).2 := by
  induction course generalizing w with
  | finish outcome => exact h.refl w
  | act d next ih =>
      have hdeed := h.enact hcall w d
      rw [Course.play]
      exact h.trans hdeed (ih _ _ _)

/-- It holds over whatever players answer. -/
theorem answer (players : Players σ) (hcall : Heeds R call) :
    Heeds R (World.answer call (players.play call)) := by
  intro upcall w
  have huser : ∀ upcall w₁, R w w₁ → R w (players.play call upcall w₁).2 :=
    fun upcall w₁ hw₁ => h.trans hw₁ (h.course hcall (players upcall w₁) w₁)
  exact (h.robust hcall w).answer (h.refl w) huser upcall

/-- However deeply the calls are nested. -/
theorem respond (players : Players σ) (depth : Nat) : Heeds R (respond players.play depth) := by
  induction depth with
  | zero => intro upcall w; exact h.refl w
  | succ depth ih => exact h.answer players ih

/-- It holds over a run. -/
theorem undergoAll (hcall : Heeds R call) (occasions : List (Occasion σ)) (w : World σ) :
    R w (w.undergoAll call occasions) := by
  induction occasions generalizing w with
  | nil => exact h.refl w
  | cons o occasions ih =>
      refine h.trans ?_ (ih (w.undergo call o))
      cases o with
      | deed d => exact h.enact hcall w d
      | turn limit => exact (h.robust hcall w).runTasks (h.refl w) limit

end Endures

/-- A relation of the outline of a world to what becomes of it, which the library and
    arbitrary handlers keep. -/
structure Abides [Journal σ] (R : World σ → World σ → Prop) : Prop where
  same : ∀ {w w'}, w'.outline = w.outline → R w w'
  trans : ∀ {a b c}, R a b → R b c → R a c
  move : ∀ {call}, Heeds R call → ∀ (w : World σ) (p : PipelineId) (m : Move), R w (w.move call p m)

namespace Abides

variable [Journal σ] (h : Abides R)
include h

/-- To be what has become of some world is a property that dispatch cannot break. -/
theorem steady (hcall : Heeds R call) (w₀ : World σ) : Steady (R w₀) call where
  same := fun hw hsame => h.trans hw (h.same hsame)
  call := fun upcall w hw => h.trans hw (hcall upcall w)

/-- What does not show in the outline is no concern of it. -/
theorem endures : Endures R where
  same := fun hsame => h.same (outline_of_figure hsame)
  trans := h.trans
  pulse := fun hcall w p e => (h.steady hcall w).robust.pulse w p e (h.same rfl)
  move := h.move
  detach := fun w p => h.same (outline_detach w p)
  newPipeline := fun w => h.same (outline_newPipeline w)

/-- It holds over whatever players answer, however deeply the calls are nested. -/
theorem respond (players : Players σ) (depth : Nat) : Heeds R (respond players.play depth) :=
  h.endures.respond players depth

/-- It holds over a run. -/
theorem undergoAll (hcall : Heeds R call) (occasions : List (Occasion σ)) (w : World σ) :
    R w (w.undergoAll call occasions) :=
  h.endures.undergoAll hcall occasions w

end Abides

end Conduit.World
