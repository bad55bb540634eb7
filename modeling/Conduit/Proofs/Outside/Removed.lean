import Conduit.Proofs.Dispatch.Posting
import Conduit.Proofs.World.Places

/-!
# Contexts That Have Been Removed

A handler may keep its context after it has been removed, and go on using it. What it fires
is noted and dropped, and what it asks for is refused: both look at the mark. But moving data
on, and filling the next container, only look for the next handler, and to whoever is not
linked there is none. That is how the ends of a pipeline look, so the data goes there: inbound
to the tail, and outbound to where the sink takes its data from. The next flush carries it
out. A context that has been removed cannot reach a handler any more, but it is not cut off.

A `Gesture` is anything that can be done through a context. `Stranded` says what is left of
it: nobody is called, but for those who wait for a promise that is refused, nothing is
posted, and no data is where it was not before but in a few places, none of which belongs to
another context.

All this holds as long as the context is marked and not linked, and once it is, it stays so
over everything that anybody does. `Lineage` is what keeps it so, and it is what holds between
a world and all that becomes of it, between the turns of the event loop and within callbacks.

## Main definitions

* `Gesture`, `World.gesture`: What can be done through a context.
* `Gesture.spills`: Where it may leave data.
* `World.Stranded`: All that comes of it otherwise.

## Theorems

* `Sound.nextInbound_removed`, `Sound.nextOutbound_removed`: Where data goes.
* `Stranded.refl`, `Stranded.setContainer`, `Stranded.moveAll`, `Stranded.forwardInbound`,
  `Stranded.forwardOutbound`: Data that is moved.
* `Stranded.context_eq`, `Stranded.fireFrom`, `Stranded.requestWith`,
  `Stranded.newPromise`: Events that are dropped, and requests that are refused.
* `gesture_stranded`: What comes of a gesture.
* `removed_stranded`: It does so forever.
* `sampleExpelled_sound`, `removed_stranded_sampleExpelled`: A context that has been removed.
* `removed_leak`: What is left with it is carried out by a flush.
-/

namespace Conduit

open Roster

/-- Something that can be done through a context. -/
inductive Gesture where
  | fire (event : InboundEvent)
  /-- Passes a request on. -/
  | request (r : Request)
  /-- Asks for an action of its own. -/
  | ask (action : Action)
  | write (msg : Message)
  | forwardInbound
  | forwardOutbound
  /-- Does something with the next container. -/
  | fillInbound (f : Container → Container)
  | fillOutbound (f : Container → Container)
  /-- Does what every handler does by default. -/
  | proceed (callback : Callback)

namespace Gesture

/-- The promise that comes with it. -/
def promise? : Gesture → Option PromiseId
  | request r | proceed (.outbound r) => some r.promise
  | _ => none

/-- Where it may leave data, given where data goes next. -/
def spills (c : ContextId) (inward outward : Place) : Gesture → List Place
  | forwardInbound | proceed (.inbound .messageUpdated) => [.inbound c, inward]
  | forwardOutbound | proceed (.outbound ⟨.flush, _⟩) => [.outbound c, outward]
  | fillInbound _ => [inward]
  | fillOutbound _ => [outward]
  | _ => []

end Gesture

namespace World

variable {σ : Type} {w w' w₂ : World σ} {c : ContextId} {places : List Place}

/-! ### Where data goes -/

section Ends

variable (hw : w.Sound) (hlinked : ¬ w.IsLinked c)
include hw hlinked

/-- Inbound data goes to the tail. -/
theorem Sound.nextInbound_removed : w.nextInbound c =
    if w.isKept (w.context c).pipeline then .tail (w.context c).pipeline else .nowhere := by
  rw [isLinked_iff] at hlinked
  have hnone : (w.chain (w.context c).pipeline).findInbound (.after c) .messageUpdated = none := by
    rw [(hw _).findInbound rfl, targets_absent hlinked (.inr rfl)]
    rfl
  rw [nextInbound, inboundTarget, hnone]
  rfl

/-- Outbound data goes to where the sink takes it from. -/
theorem Sound.nextOutbound_removed : w.nextOutbound c =
    if w.isKept (w.context c).pipeline then .sink (w.context c).pipeline else .nowhere := by
  rw [isLinked_iff, ← List.mem_reverse, ← ids_reverse] at hlinked
  have hnone : (w.chain (w.context c).pipeline).findOutbound (.after c) .flush = none := by
    rw [(hw _).findOutbound rfl, targets_absent hlinked (.inr rfl)]
    rfl
  rw [nextOutbound, outboundTarget, hnone]
  rfl

end Ends

variable [Journal σ]

/-! ### What comes of a gesture -/

/-- Does something through a context. -/
def gesture (w : World σ) (call : Caller σ) (c : ContextId) : Gesture → World σ
  | .fire event => w.fireFrom call c event
  | .request r => w.requestWith call c r
  | .ask action => (w.requestFrom call c action).2
  | .write msg => (w.writeFrom call c msg).2
  | .forwardInbound => w.forwardInbound c
  | .forwardOutbound => w.forwardOutbound c
  | .fillInbound f => w.updateContainer (w.nextInbound c) f
  | .fillOutbound f => w.updateContainer (w.nextOutbound c) f
  | .proceed callback => w.byDefault call c callback

/-- Refuses a promise, if there is one, because a context has been removed. -/
def refusing (w : World σ) (call : Caller σ) (c : ContextId) : Option PromiseId → World σ
  | none => w
  | some f => (w.complete call f (.error (.illegalState (.removed (w.context c).name)))).2

/-- What is left of a gesture that reaches nobody: data in some places, promises that have been
    made for it, and a notice. -/
structure Stranded (c : ContextId) (places : List Place) (w w' : World σ) : Prop where
  same : w'.bare = { w.bare with promises := w'.promises, user := w'.user }
  transports : w'.transports = w.transports
  contents : ∀ place, place ∉ places → w'.container place = w.container place
  promises : ∃ made, w'.promises = w.promises ++ made
  noticed : w'.user = w.user ∨
    ∃ kind, w'.user = Journal.record (.removedContext (w.context c).name kind) w.user

namespace Stranded

theorem refl (c : ContextId) (places : List Place) (w : World σ) : Stranded c places w w where
  same := rfl
  transports := rfl
  contents := fun _ _ => rfl
  promises := ⟨[], (List.append_nil _).symm⟩
  noticed := .inl rfl

/-- Data is put somewhere. -/
theorem setContainer {place : Place} (h : Stranded c places w w')
    (hplace : place ∈ places) (x : Container) : Stranded c places w (w'.setContainer place x) := by
  have hbare := bare_setContainer w' place x
  have hpromises : (w'.setContainer place x).promises = w'.promises := by cases place <;> rfl
  have huser : (w'.setContainer place x).user = w'.user := by cases place <;> rfl
  have htransports : (w'.setContainer place x).transports = w'.transports := by
    cases place <;> rfl
  exact {
    same := by rw [hbare, hpromises, huser, h.same]
    transports := htransports.trans h.transports
    contents := fun other hother => by
      have hne : other ≠ place := fun he => hother (he ▸ hplace)
      rw [container_setContainer_ne hne, h.contents other hother]
    promises := hpromises ▸ h.promises
    noticed := huser ▸ h.noticed }

theorem moveAll (c : ContextId) (w : World σ) (source target : Place) :
    Stranded c [source, target] w (w.moveAll source target) := by
  have hsource : source ∈ [source, target] := List.mem_cons_self
  have htarget : target ∈ [source, target] := by simp
  exact ((refl c _ w).setContainer hsource _).setContainer htarget _

theorem forwardInbound (c : ContextId) (w : World σ) :
    Stranded c [.inbound c, w.nextInbound c] w (w.forwardInbound c) := by
  rw [World.forwardInbound]
  split
  · exact refl c _ w
  · exact moveAll c w _ _

theorem forwardOutbound (c : ContextId) (w : World σ) :
    Stranded c [.outbound c, w.nextOutbound c] w (w.forwardOutbound c) := by
  rw [World.forwardOutbound]
  split
  · exact refl c _ w
  · exact moveAll c w _ _

/-- It is still the same context. -/
theorem context_eq {β : Type} {f : Context → β} (hf : ∀ x, f x.bare = f x)
    (h : Stranded c places w w') : f (w'.context c) = f (w.context c) :=
  context_congr hf (congrArg World.contexts h.same) c

/-- An event is dropped with a notice. -/
theorem fireFrom (h : Stranded c places w w') (hmark : (w.context c).removed = true)
    (huser : w'.user = w.user) (event : InboundEvent) :
    ∃ v, (∀ call, w'.fireFrom call c event = v) ∧ Stranded c places w v := by
  have hmark' : (w'.context c).removed = true :=
    (h.context_eq (f := Context.removed) fun _ => rfl).trans hmark
  have hname := h.context_eq (f := Context.name) fun _ => rfl
  refine ⟨w'.notice (.removedContext (w'.context c).name event.kind),
    fun call => if_pos hmark', ?_, h.transports, h.contents, h.promises, .inr ⟨event.kind, ?_⟩⟩
  · rw [bare_notice, h.same]
    rfl
  · rw [hname, ← huser]
    rfl

/-- A request is refused. -/
theorem requestWith (h : Stranded c places w w') (hmark : (w.context c).removed = true)
    (call : Caller σ) (r : Request) :
    w'.requestWith call c r = w'.refusing call c (some r.promise) := by
  have hmark' : (w'.context c).removed = true :=
    (h.context_eq (f := Context.removed) fun _ => rfl).trans hmark
  rw [← plead_request]
  exact plead_refused hmark' call (.request r)

/-- A promise that is made for a gesture is refused before anybody can wait for it. -/
theorem newPromise (c : ContextId) (w : World σ) (call : Caller σ) :
    w.newPromise.2.refusing call c (some w.newPromise.1) =
      { w with promises := w.promises ++
          [{ outcome := some (.error (.illegalState (.removed (w.context c).name))) }] } :=
  congrArg Prod.snd (complete_newPromise w call _)

end Stranded

/-- Whatever is done through a context that has been removed reaches nobody. -/
theorem gesture_stranded (hmark : (w.context c).removed = true) (e : Gesture) :
    ∃ w', (∀ call, w.gesture call c e = w'.refusing call c e.promise?) ∧
      Stranded c (e.spills c (w.nextInbound c) (w.nextOutbound c)) w w' := by
  have hrefl := fun places => Stranded.refl c places w
  -- A promise more, which is refused, is all that asking leaves behind.
  have hmade : Stranded c [] w { w with promises := w.promises ++
      [{ outcome := some (.error (.illegalState (.removed (w.context c).name))) }] } :=
    { hrefl [] with same := rfl, promises := ⟨_, rfl⟩ }
  cases e with
  | fire event => exact (hrefl []).fireFrom hmark rfl event
  | request r => exact ⟨w, fun call => (hrefl []).requestWith hmark call r, hrefl []⟩
  | ask action =>
      -- The promise is made first, so it is refused before anybody can wait for it.
      have hmark' : (w.newPromise.2.context c).removed = true := hmark
      refine ⟨_, fun call => ?_, hmade⟩
      exact (plead_refused hmark' call (.request ⟨action, w.newPromise.1⟩)).trans
        (Stranded.newPromise c w call)
  | write msg =>
      have hmark' : (w.newPromise.2.context c).removed = true := hmark
      refine ⟨_, fun call => ?_, hmade⟩
      exact ((writeFrom_eq w call c msg).trans (plead_refused hmark' call _)).trans
        (Stranded.newPromise c w call)
  | forwardInbound => exact ⟨_, fun call => rfl, Stranded.forwardInbound c w⟩
  | forwardOutbound => exact ⟨_, fun call => rfl, Stranded.forwardOutbound c w⟩
  | fillInbound f => exact ⟨_, fun call => rfl, (hrefl _).setContainer List.mem_cons_self _⟩
  | fillOutbound f => exact ⟨_, fun call => rfl, (hrefl _).setContainer List.mem_cons_self _⟩
  | proceed callback =>
      cases callback with
      | hook hook => exact ⟨w, fun call => rfl, hrefl []⟩
      | inbound event =>
          cases event with
          | messageUpdated =>
              -- Data is moved on before anybody looks at the mark.
              have huser : (w.forwardInbound c).user = w.user :=
                (congrArg World.user (bare_forwardInbound w c) :)
              exact (Stranded.forwardInbound c w).fireFrom hmark huser .messageUpdated
          | _ => exact (hrefl []).fireFrom hmark rfl _
      | outbound r =>
          obtain ⟨action, f⟩ := r
          cases action with
          | flush =>
              have h := Stranded.forwardOutbound c w
              exact ⟨_, fun call => h.requestWith hmark call ⟨.flush, f⟩, h⟩
          | _ => exact ⟨w, fun call => (hrefl []).requestWith hmark call _, hrefl []⟩

/-- Once a context has been removed it stays so, over whatever is done between the turns of the
    event loop and within callbacks. At any time after that, inbound data goes from it to the
    tail and outbound data to where the sink takes it from, if the pipeline is still there, and
    nothing else that is done through it reaches anybody. -/
theorem removed_stranded (hw : w.Sound) (hc : c < w.contexts.length)
    (hmark : (w.context c).removed = true) :
    (∀ (players : Players σ) (depth : Nat),
      (∀ occasions, Lineage w (w.undergoAll (respond players.play depth) occasions)) ∧
      ∀ upcall w₁, Lineage w w₁ → Lineage w (respond players.play depth upcall w₁).2) ∧
    ∀ w₂, Lineage w w₂ →
      let p := (w.context c).pipeline
      (w₂.context c).removed = true ∧ ¬ w₂.IsLinked c ∧
      w₂.nextInbound c = (if w₂.isKept p then .tail p else .nowhere) ∧
      w₂.nextOutbound c = (if w₂.isKept p then .sink p else .nowhere) ∧
      ∀ e : Gesture, ∃ w', (∀ call, w₂.gesture call c e = w'.refusing call c e.promise?) ∧
        Stranded c (e.spills c (w₂.nextInbound c) (w₂.nextOutbound c)) w₂ w' := by
  refine ⟨fun players depth => ⟨fun occasions => ?_, fun upcall w₁ h => ?_⟩, fun w₂ h => ?_⟩
  · exact lineage_abides.undergoAll (respond_lineage players depth) occasions w
  · exact lineage_abides.trans h (respond_lineage players depth upcall w₁)
  · -- The mark and the pipeline are what descent keeps of a context.
    have hdescends := h hw
    have hmark₂ : (w₂.context c).removed = true := (hdescends.marked c hc).mpr (.inl hmark)
    have hlinked₂ : ¬ w₂.IsLinked c := fun hlinked =>
      absurd (hdescends.sound.linked hlinked).2 (by rw [hmark₂]; decide)
    have hp : (w₂.context c).pipeline = (w.context c).pipeline := (hdescends.known c hc).1
    refine ⟨hmark₂, hlinked₂, ?_, ?_, gesture_stranded hmark₂⟩
    · rw [hdescends.sound.nextInbound_removed hlinked₂, hp]
    · rw [hdescends.sound.nextOutbound_removed hlinked₂, hp]

/-! ### Data that gets out -/

/-- An embedded channel on the inline loop. -/
def sampleTapped : World Diary :=
  sampleDistant.updatePipeline 0
    ({ · with attachment := some { channel := 0, sink := .embedded 0, loop := .inline } })

/-- The handler behind the guard has been removed. -/
def sampleExpelled : World Diary :=
  sampleTapped.undergoAll (respond sampleRecorder.play 4) [.deed (.move 0 (.remove "a"))]

theorem sampleExpelled_sound : sampleExpelled.Sound :=
  ((lineage_abides.undergoAll (respond_lineage sampleRecorder 4) _ _)
    (sampleDistant_sound.of_outline (outline_updatePipeline (by intro x; rfl) _ 0))).sound

/-- What it asks for is refused. -/
theorem removed_stranded_sampleExpelled :
    sampleExpelled.nextOutbound 1 = .sink 0 ∧
      ∃ w', (∀ call, sampleExpelled.gesture call 1 (.ask .close) = w') ∧
        Stranded 1 [] sampleExpelled w' := by
  have h := (removed_stranded sampleExpelled_sound (c := 1) (by decide +kernel)
    (by decide +kernel)).2 sampleExpelled (Lineage.refl _)
  exact ⟨h.2.2.2.1.trans (by decide +kernel), h.2.2.2.2 (.ask .close)⟩

/-- A message that waits for it gets to where the sink takes its data from when it moves its data
    on, and the next flush carries it out. -/
theorem removed_leak :
    let call := respond sampleRecorder.play 4
    let w := sampleExpelled.undergoAll call
      [.deed (.fill (.outbound 1) (Container.new.add (.u8 7)))]
    let w' := w.gesture call 1 .forwardOutbound
    (w.context 1).removed = true ∧ ¬ w.IsLinked 1 ∧ (w.container (.sink 0)).isEmpty = true ∧
      (w'.container (.sink 0)).messages.map Message.kind = [.u8] ∧
      ((w'.request call 0 .flush).2.transport 0).outbound.messages.map Message.kind = [.u8] := by
  refine ⟨by decide +kernel, ?_, by decide +kernel, by decide +kernel, by decide +kernel⟩
  rw [isLinked_iff]
  decide +kernel

end World

end Conduit
