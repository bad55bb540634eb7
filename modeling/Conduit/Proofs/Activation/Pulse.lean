import Conduit.Proofs.World.Hosting

/-!
# Pulses

Four events tell a pipeline how far its channel has come to life. They are the only ones
that the pipeline itself may put off: it keeps four flags, and what it dispatches when
such an event is fired depends on them. It may be nothing, the event itself, or up to three
events one after the other, because an event that was put off is made up for.

`heralded` is the work that such an event is, done with a note of every dispatch that it starts
at the head, and of the world in which that starts. A dispatch calls handlers, and these may
fire more of the same events before it ends, so the flags may be different after it. What is
dispatched next depends on what they are then.

The library also keeps a record of it all. Where nobody fires anything over a dispatch, the
record is the pulse and behind it each of its dispatches, begun and done.

## Main definitions

* `Lasts`: Something has happened and has not been revoked.
* `World.life`: The flags of a pipeline.
* `World.vitals`: The flags, and what is on record.
* `World.heralded`, `World.starts`: What a pulse starts at the head, and in which worlds.
* `World.Quiet`: Nobody fires another pulse over what it starts.
* `Activation.take`: What it starts then, and what becomes of the flags.
* `Pulse.brief`: What is on record of a dispatch then.

## Theorems

* `lasts_singleton`, `lasts_append`, `lasts_concat`: What lasts of one history after another.
* `lasts_mem`, `lasts_of_mem`: What lasts has happened, and what is never revoked lasts.
* `Activation.activate_closed`, `Activation.activate_opened`: What `channel_active` does to
  the flags.
* `activation_of_life`: The flags of a pipeline that there is.
* `life_updateActivation`, `life_updateActivation_self`, `life_updatePipeline`: What becomes
  of the flags.
* `marks_mark`, `marks_mark_self`: What becomes of the record.
* `life_of_vitals`, `marks_of_vitals`, `vitals_updatePipeline`, `vitals_setContainer`: The two
  together.
* `activeHeralded_world`, `heralded_world`: Noting what is started changes nothing.
* `activeHeralded_closed`, `activeHeralded_opened`: What `channel_active` starts.
* `fire_execute`, `fire_pulse`: Where such work is done at once.
* `Hosts.start_some`: A dispatch is a call of the first handler that asks for the event.
* `vitals_dispatch`, `vitals_fireNow`: Who leaves flags and record alone over a dispatch.
* `activeHeralded_quiet`: What comes of `channel_active` over which nobody fires a pulse.
* `heralded_quiet`: What comes of any pulse over which nobody fires another.
* `quiet_of_call`: Who fires nothing.
-/

namespace Conduit

/-! ### What lasts -/

section Lasts

variable {α : Type} [DecidableEq α] {on e : α} {off : α → Bool} {x y es : List α}

/-- In a history, something has happened, and nothing that revokes it since. -/
def Lasts (on : α) (off : α → Bool) (es : List α) : Prop :=
  (es.filter fun e => e = on || off e).getLast? = some on

instance (on : α) (off : α → Bool) (es : List α) : Decidable (Lasts on off es) :=
  inferInstanceAs (Decidable (_ = _))

theorem lasts_singleton : Lasts on off [e] ↔ e = on := by
  rw [Lasts, List.filter_cons, List.filter_nil]
  by_cases hon : e = on
  · simp [hon]
  · cases hoff : off e <;> simp [hon]

theorem lasts_append :
    Lasts on off (x ++ y) ↔ Lasts on off y ∨ Lasts on off x ∧ ∀ e ∈ y, off e = false := by
  rw [Lasts, List.filter_append, List.getLast?_append, Lasts, Lasts]
  -- If anything in `y` counts, only that does.
  cases hlast : (y.filter fun e => e = on || off e).getLast? with
  | none =>
      have hnone := List.filter_eq_nil_iff.mp (List.getLast?_eq_none_iff.mp hlast)
      simp only [Bool.or_eq_true, decide_eq_true_eq, not_or, Bool.not_eq_true] at hnone
      simp only [Option.none_or, reduceCtorEq, false_or]
      exact ⟨fun h => ⟨h, fun e he => (hnone e he).2⟩, fun h => h.1⟩
  | some e =>
      obtain ⟨hmem, he⟩ := List.mem_filter.mp (List.mem_of_getLast? hlast)
      by_cases hon : e = on
      · simp [hon]
      · have hoff : off e = true := by simpa [hon] using he
        have hy : ¬ ∀ e ∈ y, off e = false := fun h => by simp [h e hmem] at hoff
        simp [hon, hy]

theorem lasts_concat : Lasts on off (es ++ [e]) ↔ e = on ∨ Lasts on off es ∧ off e = false := by
  rw [lasts_append, lasts_singleton]
  simp

theorem lasts_mem (h : Lasts on off es) : on ∈ es :=
  (List.mem_filter.mp (List.mem_of_getLast? h)).1

/-- What has happened and was never revoked lasts. -/
theorem lasts_of_mem (hon : on ∈ es) (hoff : ∀ e ∈ es, off e = false) : Lasts on off es := by
  obtain ⟨x, y, rfl⟩ := List.append_of_mem hon
  rw [List.append_cons, lasts_append, lasts_concat]
  exact .inr ⟨.inl rfl, fun e he => hoff e (by simp [he])⟩

end Lasts

/-! ### Pulses -/

/-- The work that a pulse is for a pipeline. -/
def Pulse.job : Pulse → Job
  | opened => .open
  | activated => .active
  | deactivated => .inactive
  | updated => .updated

/-- The marks of a dispatch over which nothing else happens. -/
def Pulse.brief (e : Pulse) : List Mark := [.started e, .finished e]

namespace Activation

variable {a : Activation}

/-- What is dispatched once `channel_active` is fired, and what becomes of the flags, if the
    dispatches leave them alone. -/
def activate (a : Activation) : List Pulse × Activation :=
  if a.opened then
    (.activated :: if a.pendingUpdate then [.updated] else [],
      { a with active := true, pendingUpdate := false })
  else ([], { a with pendingActive := true })

/-- What is dispatched once a pulse is fired, and what becomes of the flags, if the dispatches
    leave them alone. -/
def take (a : Activation) : Pulse → List Pulse × Activation
  | .opened =>
    let b := { a with opened := true, pendingActive := false }
    if a.pendingActive then (.opened :: b.activate.1, b.activate.2) else ([.opened], b)
  | .activated => a.activate
  | .deactivated => ([.deactivated], { a with active := false })
  | .updated => if a.active then ([.updated], a) else ([], { a with pendingUpdate := true })

theorem activate_closed (h : a.opened = false) :
    a.activate = ([], { a with pendingActive := true }) :=
  if_neg (by rw [h]; exact Bool.false_ne_true)

theorem activate_opened (h : a.opened = true) :
    a.activate = (.activated :: if a.pendingUpdate then [.updated] else [],
      { a with active := true, pendingUpdate := false }) :=
  if_pos h

end Activation

namespace World

variable {σ : Type} {w w' : World σ} {p q : PipelineId} {a : Activation} {e : Pulse}

/-! ### Flags -/

/-- How far the channel of a pipeline has come to life, if there is such a pipeline. -/
def life (w : World σ) (p : PipelineId) : Option Activation :=
  (w.pipelines[p]?).map Pipeline.activation

theorem activation_of_life (h : w.life p = some a) : (w.pipeline p).activation = a := by
  rw [life] at h
  rw [pipeline]
  cases hp : w.pipelines[p]? with
  | none =>
      rw [hp] at h
      cases h
  | some x =>
      rw [hp] at h
      exact Option.some.inj h

theorem life_updateActivation (w : World σ) (p q : PipelineId) (f : Activation → Activation) :
    (w.updateActivation p f).life q = if p = q then (w.life q).map f else w.life q := by
  rw [life, updateActivation, updatePipeline, List.getElem?_modify, life]
  cases w.pipelines[q]? with
  | none => split <;> rfl
  | some x => split <;> rfl

theorem life_updateActivation_self (h : w.life p = some a) (f : Activation → Activation) :
    (w.updateActivation p f).life p = some (f a) := by
  rw [life_updateActivation, if_pos rfl, h]
  rfl

/-- What is done to a pipeline and not to its flags does not show in them. -/
theorem life_updatePipeline {f : Pipeline → Pipeline}
    (hf : ∀ x, (f x).activation = x.activation) (w : World σ) (p q : PipelineId) :
    (w.updatePipeline p f).life q = w.life q := by
  rw [life, updatePipeline, List.getElem?_modify, life]
  cases w.pipelines[q]? with
  | none => rfl
  | some x =>
      by_cases hpq : p = q
      · simp only [if_pos hpq, Option.map_eq_map, Option.map_some]
        exact congrArg some (hf x)
      · simp only [if_neg hpq, Option.map_eq_map, Option.map_some]

/-! ### The record -/

theorem marks_mark (w : World σ) (p q : PipelineId) (m : Mark) :
    (w.mark p m).marks q = if p = q then w.marks q ++ [m] else w.marks q := by
  rw [marks, mark, List.filterMap_append, marks]
  by_cases hpq : p = q
  · rw [if_pos hpq]
    simp [hpq]
  · rw [if_neg hpq]
    simp [hpq]

@[simp] theorem marks_mark_self (w : World σ) (p : PipelineId) (m : Mark) :
    (w.mark p m).marks p = w.marks p ++ [m] := by
  rw [marks_mark, if_pos rfl]

/-- How far the channel of a pipeline has come to life, and what is on record of that. -/
def vitals (w : World σ) (p : PipelineId) : Option Activation × List Mark := (w.life p, w.marks p)

theorem life_of_vitals (h : w'.vitals p = w.vitals p) : w'.life p = w.life p := congrArg Prod.fst h

theorem marks_of_vitals (h : w'.vitals p = w.vitals p) : w'.marks p = w.marks p :=
  congrArg Prod.snd h

theorem vitals_updatePipeline {f : Pipeline → Pipeline}
    (hf : ∀ x, (f x).activation = x.activation) (w : World σ) (p q : PipelineId) :
    (w.updatePipeline p f).vitals q = w.vitals q :=
  congrArg (·, w.marks q) (life_updatePipeline hf w p q)

theorem vitals_setContainer (w : World σ) (place : Place) (x : Container) (p : PipelineId) :
    (w.setContainer place x).vitals p = w.vitals p := by
  cases place with
  | inbound c => rfl
  | outbound c => rfl
  | tail q => exact vitals_updatePipeline (by intro y; rfl) w q p
  | sink q => exact vitals_updatePipeline (by intro y; rfl) w q p
  | nowhere => rfl

/-! ### What a pulse starts -/

variable [Journal σ] {call : Caller σ}

/-- Starts a dispatch at the head, and notes it. -/
def herald (w : World σ) (call : Caller σ) (p : PipelineId) (e : Pulse) :
    List (World σ × Pulse) × World σ :=
  ([(w, e)], w.start call p e)

/-- `activeNow`, with a note of the dispatches that start at the head. -/
def activeHeralded (w : World σ) (call : Caller σ) (p : PipelineId) :
    List (World σ × Pulse) × World σ :=
  if (w.pipeline p).activation.opened then
    let (notes, w) := (w.updateActivation p ({ · with active := true })).herald call p .activated
    let replay := (w.pipeline p).activation.pendingUpdate
    let w := w.updateActivation p ({ · with pendingUpdate := false })
    if replay then
      let (more, w) := w.herald call p .updated
      (notes ++ more, w)
    else (notes, w)
  else ([], (w.notice .activeBeforeOpen).updateActivation p ({ · with pendingActive := true }))

/-- The work that a pulse is, with a note of the dispatches that start at the head. -/
def heralded (w : World σ) (call : Caller σ) (p : PipelineId) :
    Pulse → List (World σ × Pulse) × World σ
  | .opened =>
    let pending := (w.pipeline p).activation.pendingActive
    let w := w.updateActivation p ({ · with opened := true, pendingActive := false })
    let (notes, w) := w.herald call p .opened
    if pending then
      let (more, w) := w.activeHeralded call p
      (notes ++ more, w)
    else (notes, w)
  | .activated => w.activeHeralded call p
  | .deactivated => (w.updateActivation p ({ · with active := false })).herald call p .deactivated
  | .updated =>
    if (w.pipeline p).activation.active then w.herald call p .updated
    else ([], w.updateActivation p ({ · with pendingUpdate := true }))

/-- The dispatches that a pulse starts at the head, each with the world in which it starts. -/
def starts (w : World σ) (call : Caller σ) (p : PipelineId) (e : Pulse) :
    List (World σ × Pulse) :=
  ((w.mark p (.fired e)).heralded call p e).1

theorem activeHeralded_world (w : World σ) (call : Caller σ) (p : PipelineId) :
    (w.activeHeralded call p).2 = w.activeNow call p := by
  rw [activeHeralded, activeNow]
  split
  · dsimp only [herald]
    split <;> rfl
  · rfl

/-- Noting what is started changes nothing. -/
theorem heralded_world (w : World σ) (call : Caller σ) (p : PipelineId) (e : Pulse) :
    ((w.mark p (.fired e)).heralded call p e).2 = w.runJob call p e.job := by
  cases e with
  | opened =>
      dsimp only [heralded, runJob, Pulse.job, openNow, herald]
      split
      · exact activeHeralded_world _ call p
      · rfl
  | activated => exact activeHeralded_world _ call p
  | deactivated => rfl
  | updated =>
      dsimp only [heralded, runJob, Pulse.job, updatedNow]
      split <;> rfl

/-- Before the channel is open, `channel_active` starts nothing. -/
theorem activeHeralded_closed (hopened : (w.pipeline p).activation.opened = false) :
    w.activeHeralded call p =
      ([], (w.notice .activeBeforeOpen).updateActivation p ({ · with pendingActive := true })) :=
  if_neg (by rw [hopened]; exact Bool.false_ne_true)

/-- Once it is, `channel_active` is dispatched, and `message_updated` after it if that is held
    back by then. -/
theorem activeHeralded_opened (hopened : (w.pipeline p).activation.opened = true)
    {w₁ w₂ w₃ : World σ} (hw₁ : w₁ = w.updateActivation p ({ · with active := true }))
    (hw₂ : w₂ = w₁.start call p .activated)
    (hw₃ : w₃ = w₂.updateActivation p ({ · with pendingUpdate := false })) :
    w.activeHeralded call p =
      if (w₂.pipeline p).activation.pendingUpdate then
        ([(w₁, .activated), (w₃, .updated)], w₃.start call p .updated)
      else ([(w₁, .activated)], w₃) := by
  subst hw₁ hw₂ hw₃
  rw [activeHeralded, if_pos hopened]
  rfl

/-- A pulse that is fired is executed. -/
theorem fire_execute (w : World σ) (call : Caller σ) (p : PipelineId) (e : Pulse) :
    w.fire call p e.event = w.execute call p e.job := by
  cases e <;> rfl

/-- On the thread of the event loop the work is done at once. -/
theorem fire_pulse (hin : w.inLoop (w.loopOf p) = true) (call : Caller σ) (e : Pulse) :
    w.fire call p e.event = w.runJob call p e.job := by
  rw [fire_execute, execute, if_pos hin]

/-- A dispatch at the head is a call of the first handler that asks for the event. -/
theorem Hosts.start_some {l : Roster} {m : Member} {ms : Roster} (h : w.Hosts p l)
    (hsome : l.targets .start e.event.kind = m :: ms) (call : Caller σ) :
    w.start call p e =
      match call (.handler m.id (.inbound e.event)) (w.mark p (.started e)) with
      | (.ok _, w) => w.mark p (.finished e)
      | (.error cause, w) => (onFailure call p e.event m.id cause w).mark p (.finished e) := by
  have hhosts : (w.mark p (.started e)).Hosts p l := h.congr rfl rfl
  rw [start, fireNow_eq, hhosts.dispatch_some hsome]
  cases call (.handler m.id (.inbound e.event)) (w.mark p (.started e)) with
  | mk outcome w₁ => cases outcome <;> rfl

/-! ### Pulses over which nobody fires another -/

/-- The dispatches that a pulse starts leave the flags of the pipeline as they find them, and
    nothing but themselves on record. -/
def Quiet (w : World σ) (call : Caller σ) (p : PipelineId) (e : Pulse) : Prop :=
  ∀ s ∈ w.starts call p e,
    (s.1.start call p s.2).vitals p = (s.1.life p, s.1.marks p ++ s.2.brief)

/-- A dispatch over which nobody touches the flags or the record. -/
theorem vitals_dispatch (hcall : ∀ upcall w, (call upcall w).2.vitals q = w.vitals q)
    {failed : ContextId → Error → World σ → World σ}
    (hfailed : ∀ c cause w, (failed c cause w).vitals q = w.vitals q) (w : World σ)
    (p : PipelineId) (cursor : Cursor) (event : InboundEvent) :
    (w.dispatch call p cursor event failed).vitals q = w.vitals q := by
  rw [dispatch]
  split
  · rw [unheard]
    split
    · exact vitals_setContainer _ _ _ q
    · rfl
  · split
    · cases event with
      | messageUpdated =>
          rw [fellOff]
          split
          · rfl
          · exact vitals_setContainer _ _ _ q
      | _ => rfl
    · rename_i c _
      -- A failure is met by whoever is told, who is taken to touch nothing either.
      have hanswer := hcall (.handler c (.inbound event)) w
      cases houtcome : call (.handler c (.inbound event)) w with
      | mk outcome w₁ =>
          rw [houtcome] at hanswer
          cases outcome with
          | ok _ => exact hanswer
          | error cause => exact (hfailed c cause w₁).trans hanswer

/-- Nobody touches them over an event if nobody who is called does. -/
theorem vitals_fireNow (hcall : ∀ upcall w, (call upcall w).2.vitals q = w.vitals q)
    (w : World σ) (p : PipelineId) (cursor : Cursor) (event : InboundEvent) :
    (w.fireNow call p cursor event).vitals q = w.vitals q := by
  -- A handler that fails is reported to the others, and that is one dispatch more.
  have hreport : ∀ (c : ContextId) (kind : EventKind) (cause : Error) (w : World σ),
      (w.reportFailure call p c kind cause).vitals q = w.vitals q :=
    fun c kind cause w => vitals_dispatch hcall (by intros; rfl) w p _ _
  cases event with
  | exceptionCaught cause => exact vitals_dispatch hcall (by intros; rfl) w p cursor _
  | messageUpdated =>
      refine vitals_dispatch hcall (fun c cause w => ?_) w p cursor _
      rw [hreport]
      exact vitals_setContainer _ _ _ q
  | _ => exact vitals_dispatch hcall (fun c cause w => hreport c _ cause w) w p cursor _

/-- `channel_active` over which nobody fires another pulse. -/
theorem activeHeralded_quiet (ha : w.life p = some a)
    (hquiet : ∀ s ∈ (w.activeHeralded call p).1,
      (s.1.start call p s.2).vitals p = (s.1.life p, s.1.marks p ++ s.2.brief)) :
    (w.activeHeralded call p).1.map Prod.snd = a.activate.1 ∧
      (w.activeHeralded call p).2.vitals p =
        (some a.activate.2, w.marks p ++ a.activate.1.flatMap Pulse.brief) := by
  have hset := activation_of_life ha
  by_cases hopened : a.opened = true
  · obtain ⟨w₁, hw₁⟩ : ∃ w₁, w₁ = w.updateActivation p ({ · with active := true }) := ⟨_, rfl⟩
    obtain ⟨w₂, hw₂⟩ : ∃ w₂, w₂ = w₁.start call p .activated := ⟨_, rfl⟩
    obtain ⟨w₃, hw₃⟩ : ∃ w₃, w₃ = w₂.updateActivation p ({ · with pendingUpdate := false }) :=
      ⟨_, rfl⟩
    rw [activeHeralded_opened (hset ▸ hopened) hw₁ hw₂ hw₃] at hquiet ⊢
    rw [Activation.activate_opened hopened]
    have hlife₁ : w₁.life p = some { a with active := true } :=
      hw₁ ▸ life_updateActivation_self ha _
    have hmarks₁ : w₁.marks p = w.marks p := hw₁ ▸ rfl
    -- What is held back is read after the dispatch, so the flags have to be known by then.
    -- Nobody has touched the flags over `channel_active`.
    have hvitals₂ : w₂.vitals p = (w₁.life p, w₁.marks p ++ Pulse.brief .activated) :=
      hw₂ ▸ hquiet (w₁, .activated) (by split <;> simp)
    rw [hlife₁, hmarks₁] at hvitals₂
    have hlife₂ : w₂.life p = some { a with active := true } := congrArg Prod.fst hvitals₂
    have hlife₃ : w₃.life p = some { a with active := true, pendingUpdate := false } :=
      hw₃ ▸ life_updateActivation_self hlife₂ _
    have hmarks₃ : w₃.marks p = w.marks p ++ Pulse.brief .activated :=
      hw₃ ▸ congrArg Prod.snd hvitals₂
    rw [activation_of_life hlife₂] at hquiet ⊢
    dsimp only at hquiet ⊢
    split at hquiet
    · rename_i hreplay
      rw [if_pos hreplay, if_pos hreplay]
      have hvitals := hquiet (w₃, .updated) (by simp)
      rw [hlife₃, hmarks₃] at hvitals
      refine ⟨rfl, hvitals.trans ?_⟩
      simp
    · rename_i hreplay
      rw [if_neg hreplay, if_neg hreplay]
      exact ⟨rfl, by rw [vitals, hlife₃, hmarks₃]; rfl⟩
  · have hclosed := Bool.eq_false_iff.mpr hopened
    have hnoticed : (w.notice .activeBeforeOpen).life p = some a := ha
    rw [activeHeralded_closed (hset ▸ hclosed), Activation.activate_closed hclosed, vitals,
      life_updateActivation_self hnoticed]
    exact ⟨rfl, congrArg (some _, ·) (List.append_nil (w.marks p)).symm⟩

/-- What a pulse starts over which nobody fires another, what becomes of the flags, and what
    is on record of it. -/
theorem heralded_quiet (ha : w.life p = some a) (hquiet : w.Quiet call p e) :
    (w.starts call p e).map Prod.snd = (a.take e).1 ∧
      (w.runJob call p e.job).vitals p =
        (some (a.take e).2, w.marks p ++ .fired e :: (a.take e).1.flatMap Pulse.brief) := by
  -- The record has the pulse itself first, and then the dispatches that it made for.
  obtain ⟨w₀, hw₀⟩ : ∃ w₀, w₀ = w.mark p (.fired e) := ⟨_, rfl⟩
  rw [Quiet, starts, ← hw₀] at hquiet
  rw [starts, ← heralded_world, ← hw₀]
  have ha₀ : w₀.life p = some a := hw₀ ▸ ha
  have hmarks₀ : w₀.marks p = w.marks p ++ [.fired e] := by rw [hw₀, marks_mark_self]
  have hset := activation_of_life ha₀
  rw [List.append_cons, ← hmarks₀]
  cases e with
  | activated => exact activeHeralded_quiet ha₀ hquiet
  | deactivated =>
      have hdown := life_updateActivation_self ha₀ ({ · with active := false })
      have hvitals := hquiet (_, .deactivated) List.mem_cons_self
      dsimp only at hvitals
      rw [hdown] at hvitals
      exact ⟨rfl, hvitals⟩
  | updated =>
      rw [heralded, hset] at hquiet ⊢
      rw [Activation.take]
      split at hquiet
      · rename_i hactive
        rw [if_pos hactive, if_pos hactive]
        have hvitals := hquiet (w₀, .updated) List.mem_cons_self
        rw [ha₀] at hvitals
        exact ⟨rfl, hvitals⟩
      · rename_i hactive
        rw [if_neg hactive, if_neg hactive, vitals, life_updateActivation_self ha₀]
        exact ⟨rfl, congrArg (some _, ·) (List.append_nil (w₀.marks p)).symm⟩
  | opened =>
      rw [heralded, hset] at hquiet ⊢
      rw [Activation.take]
      have hopened :=
        life_updateActivation_self ha₀ ({ · with opened := true, pendingActive := false })
      -- Named, so that nothing below looks into it.
      obtain ⟨w₁, hw₁⟩ : ∃ w₁, w₁ =
        w₀.updateActivation p ({ · with opened := true, pendingActive := false }) := ⟨_, rfl⟩
      have hmarks₁ : w₁.marks p = w₀.marks p := hw₁ ▸ rfl
      simp only [herald, ← hw₁] at hquiet hopened ⊢
      have hfirst := hquiet (w₁, .opened) (by split <;> simp)
      rw [hopened, hmarks₁] at hfirst
      have hlife := congrArg Prod.fst hfirst
      have hmarks := congrArg Prod.snd hfirst
      dsimp only [vitals] at hlife hmarks
      split at hquiet
      · rename_i hpending
        rw [if_pos hpending, if_pos hpending]
        -- `channel_active` was waiting, and goes on where the dispatch of `channel_open` has ended.
        have hactive := activeHeralded_quiet hlife
          fun s hs => hquiet s (List.mem_append_right _ hs)
        rw [hmarks] at hactive
        refine ⟨congrArg (Pulse.opened :: ·) hactive.1, hactive.2.trans ?_⟩
        simp
      · rename_i hpending
        rw [if_neg hpending, if_neg hpending]
        exact ⟨rfl, hfirst⟩

/-- Nobody fires another pulse if nobody who is called touches the flags or the record. -/
theorem quiet_of_call (hcall : ∀ upcall w, (call upcall w).2.vitals p = w.vitals p) (w : World σ)
    (e : Pulse) : w.Quiet call p e := by
  intro s _
  have hfired := vitals_fireNow hcall (s.1.mark p (.started s.2)) p .start s.2.event
  have hlife := life_of_vitals hfired
  have hmarks := marks_of_vitals hfired
  rw [vitals, start, marks_mark_self, hmarks, marks_mark_self, List.append_assoc]
  exact congrArg (·, _) hlife

end World

end Conduit
