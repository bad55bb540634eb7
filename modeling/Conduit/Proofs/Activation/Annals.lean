import Conduit.Proofs.Activation.Delivery
import Conduit.Proofs.Dispatch.Failure
import Conduit.Proofs.Outside.Vital

/-!
# The Record of a Channel's Life

When handlers fire pulses themselves, a dispatch can be interrupted by others, and what a
pulse starts first may undo what it starts next. The annals of a world tell of that: there
is one mark for every pulse that is fired, for every dispatch of one that starts at the head
and for its end, and for every time that a pipeline is detached, in the order in which it
happens. The library makes the marks where it does these things, so a run leaves none out.

The marks so far tell how far a channel has come to life at any time, also in the middle of
a dispatch: `Opened` and `Active` are read off them, and the flags say the same. So it can be
said of every dispatch of `message_updated` whether the channel is active when it starts. It
is, but for one case. What was held back is told once `channel_active` has been dispatched,
and nobody looks whether the channel is still active then. A handler that closes the channel
over `channel_active` is told of data all the same.

What is true of the record is kept by whatever there is of handlers, sinks, listeners and
tasks. One step lemma says so for each of the four pulses, and `continues_endures` for all
that a run is made of.

## Main definitions

* `Opened`, `Active`: How far a channel has come, by the marks.
* `Balanced`: What has started is finished.
* `Excused`: `message_updated` may start, since the channel is active, or was when a
  `channel_active` was dispatched over which it ceased to be.
* `World.Truthful`: The flags say what is on record.
* `World.Continues`: The record goes on, and stays true.

## Theorems

* `timely_nil`, `Timely.concat`: Whether each dispatch of `message_updated` is excused.
* `Agrees.congr`, `Agrees.nil`, `Agrees.idle`: Marks that do not show in the flags.
* `Agrees.opening`, `Agrees.activate`, `Agrees.deactivate`, `Agrees.detach`: The marks that
  show in the flags.
* `Agrees.excused_after`: What can be said after a dispatch of `channel_active`.
* `Continues.trans`, `Continues.flagged`, `Continues.of_vitals`, `Continues.refl`,
  `Continues.noted`: The ways in which a record goes on.
* `Truthful.idle`: A mark that does not show in the flags leaves the record true.
* `continues_stolid`: Whoever answers calls goes on with the record.
* `marks_start`: What stands between the marks of a dispatch.
* `start_continues`, `idle_continues`: A dispatch at the head, with all that happens over it.
* `activeNow_continues`: `channel_active`, and what was held back for it.
* `pulse_continues`: Each of the pulses.
* `life_detach`, `detach_continues`: What a pipeline that is detached forgets.
* `continues_endures`: Whatever happens.
* `undergoAll_annals`: When `message_updated` is dispatched.
* `undergoAll_annals_sampleCloser`, `updated_after_close`: A handler that closes the channel
  over `channel_active`.
-/

namespace Conduit

/-- `channel_open` has been fired since the pipeline was last detached. -/
def Opened (ms : List Mark) : Prop := Lasts (.fired .opened) (· == .detached) ms

/-- `channel_active` has taken effect, and since then no `channel_inactive` has been fired and
    the pipeline has not been detached. -/
def Active (ms : List Mark) : Prop :=
  Lasts (.started .activated) (fun m => m == .fired .deactivated || m == .detached) ms

instance (ms : List Mark) : Decidable (Opened ms) := inferInstanceAs (Decidable (Lasts _ _ _))

instance (ms : List Mark) : Decidable (Active ms) := inferInstanceAs (Decidable (Lasts _ _ _))

/-- Every dispatch that starts among some marks is finished among them. -/
inductive Balanced : List Mark → Prop where
  | nil : Balanced []
  | fired (e : Pulse) : Balanced [.fired e]
  | detached : Balanced [.detached]
  | append {x y : List Mark} (hx : Balanced x) (hy : Balanced y) : Balanced (x ++ y)
  | dispatch (e : Pulse) {z : List Mark} (hz : Balanced z) :
    Balanced (.started e :: z ++ [.finished e])

/-- By the marks so far, the channel is active, or `channel_active` has been dispatched last
    and the channel has ceased to be active over it. -/
def Excused (past : List Mark) : Prop :=
  Opened past ∧ Active past ∨
    ∃ x z, past = x ++ (.started .activated :: z ++ [.finished .activated]) ∧ Balanced z ∧
      (.fired .deactivated ∈ z ∨ .detached ∈ z)

/-- Whenever `message_updated` is dispatched, that is excused by the marks before it. -/
def Timely (ms : List Mark) : Prop := ∀ x y, ms = x ++ .started .updated :: y → Excused x

theorem timely_nil : Timely [] := fun x y h => by simp at h

theorem Timely.concat {ms : List Mark} {m : Mark} (h : Timely ms)
    (hm : m = .started .updated → Excused ms) : Timely (ms ++ [m]) := by
  intro x y hsplit
  rcases List.eq_nil_or_concat y with rfl | ⟨y, last, rfl⟩
  · obtain ⟨rfl, hlast⟩ := List.append_inj' hsplit rfl
    cases hlast
    exact hm rfl
  · rw [List.concat_eq_append, ← List.cons_append, ← List.append_assoc] at hsplit
    exact h x y (List.append_inj' hsplit rfl).1

/-- The flags say what the marks say. -/
structure Agrees (ms : List Mark) (a : Activation) : Prop where
  opened : a.opened = true ↔ Opened ms
  active : a.active = true ↔ Active ms
  /-- Only what is open can be active. -/
  both : a.active = true → a.opened = true

namespace Agrees

variable {ms : List Mark} {a b : Activation}

theorem congr (h : Agrees ms a) (hopened : b.opened = a.opened) (hactive : b.active = a.active) :
    Agrees ms b where
  opened := hopened ▸ h.opened
  active := hactive ▸ h.active
  both := hopened ▸ hactive ▸ h.both

theorem nil : Agrees [] {} where
  opened := by decide
  active := by decide
  both := by decide

theorem opening (h : Agrees ms a) :
    Agrees (ms ++ [.fired .opened]) { a with opened := true, pendingActive := false } where
  opened := by simp [Opened, lasts_concat]
  active := by simp [Active, lasts_concat, h.active]
  both := fun _ => rfl

theorem activate (h : Agrees ms a) (hopened : a.opened = true) :
    Agrees (ms ++ [.started .activated]) { a with active := true } where
  opened := by simp [Opened, lasts_concat, h.opened]
  active := by simp [Active, lasts_concat]
  both := fun _ => hopened

theorem deactivate (h : Agrees ms a) :
    Agrees (ms ++ [.fired .deactivated]) { a with active := false } where
  opened := by simp [Opened, lasts_concat, h.opened]
  active := by simp [Active, lasts_concat]
  both := fun h => Bool.noConfusion h

theorem detach (ms : List Mark) : Agrees (ms ++ [.detached]) {} where
  opened := by simp [Opened, lasts_concat]
  active := by simp [Active, lasts_concat]
  both := fun h => Bool.noConfusion h

/-- Other marks do not show in the flags. -/
theorem idle (h : Agrees ms a) {m : Mark}
    (hm : m ∉ [.fired .opened, .started .activated, .fired .deactivated, .detached]) :
    Agrees (ms ++ [m]) a := by
  simp only [List.mem_cons, List.not_mem_nil, or_false, not_or] at hm
  constructor
  · simp [Opened, lasts_concat, h.opened, hm]
  · simp [Active, lasts_concat, h.active, hm]
  · exact h.both

/-- After a dispatch of `channel_active` the channel is active, or it has ceased to be over
    that. -/
theorem excused_after {x z : List Mark}
    (h : Agrees (x ++ (.started .activated :: z ++ [.finished .activated])) a)
    (hz : Balanced z) : Excused (x ++ (.started .activated :: z ++ [.finished .activated])) := by
  by_cases hactive : a.active = true
  · exact .inl ⟨h.opened.mp (h.both hactive), h.active.mp hactive⟩
  · refine .inr ⟨x, z, rfl, hz, ?_⟩
    -- If neither had happened, the start of the dispatch would have lasted.
    by_contra hnone
    rw [not_or] at hnone
    have hsplit : x ++ (.started .activated :: z ++ [.finished .activated]) =
        (x ++ [.started .activated]) ++ z ++ [.finished .activated] := by simp
    rw [h.active, Active, hsplit, lasts_concat, lasts_append, lasts_concat] at hactive
    refine hactive (.inr ⟨.inr ⟨.inl rfl, fun m hm => ?_⟩, rfl⟩)
    -- The two marks that could have revoked it are the two ways of being overtaken.
    simp only [Bool.or_eq_false_iff, beq_eq_false_iff_ne]
    exact ⟨fun h => hnone.1 (h ▸ hm), fun h => hnone.2 (h ▸ hm)⟩

end Agrees

namespace World

variable {σ : Type} {w w' w₀ w₁ w₂ : World σ} {p : PipelineId} {a : Activation}
  {call : Caller σ} {e : Pulse} {m : Mark} {f : Activation → Activation}

/-- The flags of a pipeline say what is on record of its channel, and that is timely. -/
def Truthful (w : World σ) (p : PipelineId) : Prop :=
  ∃ a, w.life p = some a ∧ Agrees (w.marks p) a ∧ Timely (w.marks p)

/-- From one world to a later one the record of a channel goes on, every dispatch that has
    started since is finished, and if the record was true it still is. -/
structure Continues (p : PipelineId) (w w' : World σ) : Prop where
  grown : ∃ ms, Balanced ms ∧ w'.marks p = w.marks p ++ ms
  truthful : w.Truthful p → w'.Truthful p

namespace Continues

theorem trans (h : Continues p w₀ w₁) (h' : Continues p w₁ w₂) : Continues p w₀ w₂ where
  grown := by
    obtain ⟨ms, hms, hmarks⟩ := h.grown
    obtain ⟨ns, hns, hmarks'⟩ := h'.grown
    exact ⟨ms ++ ns, hms.append hns, by rw [hmarks', hmarks, List.append_assoc]⟩
  truthful := fun hw => h'.truthful (h.truthful hw)

/-- Nothing is taken down, and neither `opened` nor `active` changes. -/
theorem flagged (hmarks : w'.marks p = w.marks p)
    (hlife : ∀ a, w.life p = some a → w'.life p = some (f a))
    (hf : ∀ a, (f a).opened = a.opened ∧ (f a).active = a.active) : Continues p w w' where
  grown := ⟨[], .nil, by rw [hmarks, List.append_nil]⟩
  truthful := by
    rintro ⟨a, ha, hagrees, htimely⟩
    rw [Truthful, hmarks]
    exact ⟨f a, hlife a ha, hagrees.congr (hf a).1 (hf a).2, htimely⟩

theorem of_vitals (h : w'.vitals p = w.vitals p) : Continues p w w' :=
  flagged (f := id) (marks_of_vitals h) (fun _ ha => (life_of_vitals h).trans ha)
    fun _ => ⟨rfl, rfl⟩

theorem refl (w : World σ) : Continues p w w := of_vitals rfl

/-- One mark is taken down that is not of a dispatch, with what it does to the flags. -/
theorem noted (hm : Balanced [m]) (hmarks : w'.marks p = w.marks p ++ [m])
    (hlife : ∀ a, w.life p = some a → w'.life p = some (f a))
    (hagrees : ∀ a, Agrees (w.marks p) a → Agrees (w.marks p ++ [m]) (f a))
    (hidle : m ≠ .started .updated) : Continues p w w' where
  grown := ⟨[m], hm, hmarks⟩
  truthful := by
    rintro ⟨a, ha, hpast, htimely⟩
    rw [Truthful, hmarks]
    exact ⟨f a, hlife a ha, hagrees a hpast, htimely.concat fun h => absurd h hidle⟩

end Continues

/-- A mark that does not show in the flags leaves the record true. -/
theorem Truthful.idle (h : w.Truthful p)
    (hm : m ∉ [.fired .opened, .started .activated, .fired .deactivated, .detached])
    (hexcused : m = .started .updated → Excused (w.marks p)) : (w.mark p m).Truthful p := by
  obtain ⟨a, ha, hagrees, htimely⟩ := h
  rw [Truthful, marks_mark_self]
  exact ⟨a, ha, hagrees.idle hm, htimely.concat hexcused⟩

theorem continues_stolid (hcall : Heeds (Continues p) call) (w₀ : World σ) :
    Stolid (Continues p w₀) call where
  same := fun hw hsame =>
    hw.trans (.of_vitals (Prod.ext (life_of_figure hsame p) (marks_of_figure hsame p)))
  call := fun upcall w hw => hw.trans (hcall upcall w)

/-! ### Dispatches -/

section Pulses

variable [Journal σ] (hcall : Heeds (Continues p) call)
include hcall

/-- Between the marks of a dispatch stands what has happened over it, and all that is
    finished. -/
theorem marks_start (w : World σ) (e : Pulse) : ∃ z, Balanced z ∧
    (w.start call p e).marks p = w.marks p ++ (.started e :: z ++ [.finished e]) := by
  obtain ⟨z, hz, hmarks⟩ := ((continues_stolid hcall (w.mark p (.started e))).fireNow
    (.refl _) p .start e.event).grown
  refine ⟨z, hz, ?_⟩
  rw [start, marks_mark_self, hmarks, marks_mark_self]
  simp

/-- A dispatch at the head goes on with the record, if its start leaves that true. -/
theorem start_continues (hmarks : w₁.marks p = w.marks p)
    (htruthful : w.Truthful p → (w₁.mark p (.started e)).Truthful p) :
    Continues p w (w₁.start call p e) where
  grown := by
    obtain ⟨z, hz, hstart⟩ := marks_start hcall w₁ e
    exact ⟨_, .dispatch e hz, by rw [hstart, hmarks]⟩
  truthful := by
    intro hw
    have hfired := ((continues_stolid hcall (w₁.mark p (.started e))).fireNow (.refl _) p .start
      e.event).truthful (htruthful hw)
    exact hfired.idle (by simp) (by simp)

/-- A dispatch that does not show in the flags. -/
theorem idle_continues (he : e ≠ .activated)
    (hexcused : w.Truthful p → e = .updated → Excused (w.marks p)) :
    Continues p w (w.start call p e) := by
  refine start_continues hcall rfl fun hw => hw.idle (by simpa using he) fun h => ?_
  exact hexcused hw (Mark.started.inj h)

/-- `channel_active`, and after it what was held back for it. -/
theorem activeNow_continues (w : World σ) : Continues p w (w.activeNow call p) := by
  rw [activeNow]
  by_cases hopened : (w.pipeline p).activation.opened = true
  · rw [if_pos hopened]
    -- The worlds in between are named: before the dispatch, after it, and with what was held
    -- back taken over.
    obtain ⟨w₁, hw₁⟩ : ∃ w₁, w₁ = w.updateActivation p ({ · with active := true }) := ⟨_, rfl⟩
    have hmarks₁ : w₁.marks p = w.marks p := hw₁ ▸ rfl
    have hactive : Continues p w (w₁.start call p .activated) := by
      refine start_continues hcall hmarks₁ ?_
      rintro ⟨a, ha, hagrees, htimely⟩
      rw [Truthful, marks_mark_self, hmarks₁]
      have hlife : w₁.life p = some { a with active := true } :=
        hw₁ ▸ life_updateActivation_self ha _
      refine ⟨{ a with active := true }, hlife, ?_, ?_⟩
      · exact hagrees.activate (activation_of_life ha ▸ hopened)
      · exact htimely.concat (by simp)
    obtain ⟨z, hz, hmarks₂⟩ := marks_start hcall w₁ .activated
    obtain ⟨w₂, hw₂⟩ : ∃ w₂, w₂ = w₁.start call p .activated := ⟨_, rfl⟩
    obtain ⟨w₃, hw₃⟩ : ∃ w₃, w₃ = w₂.updateActivation p ({ · with pendingUpdate := false }) :=
      ⟨_, rfl⟩
    rw [← hw₂] at hactive hmarks₂
    have hmarks₃ : w₃.marks p = w₂.marks p := hw₃ ▸ rfl
    have hcleared : Continues p w₂ w₃ := .flagged (f := ({ · with pendingUpdate := false })) hmarks₃
      (fun a ha => hw₃ ▸ life_updateActivation_self ha _) fun _ => ⟨rfl, rfl⟩
    dsimp only
    rw [← hw₁, ← hw₂, ← hw₃]
    split
    · -- Only the flag for what is held back has been looked at, so this is all that is known.
      refine (hactive.trans hcleared).trans (idle_continues hcall (by simp) fun hw _ => ?_)
      obtain ⟨a, -, hagrees, -⟩ := hw
      rw [hmarks₃, hmarks₂] at hagrees ⊢
      exact hagrees.excused_after hz
    · exact hactive.trans hcleared
  · rw [if_neg hopened]
    exact .flagged (f := ({ · with pendingActive := true })) rfl
      (fun a ha => life_updateActivation_self (w := w.notice .activeBeforeOpen) ha _)
      fun _ => ⟨rfl, rfl⟩

/-- Each of the pulses goes on with the record. -/
theorem pulse_continues (w : World σ) (e : Pulse) : Continues p w (w.runJob call p e.job) := by
  cases e with
  | activated =>
      have hfired : Continues p w (w.mark p (.fired .activated)) :=
        .noted (f := id) (.fired _) (marks_mark_self w p _) (fun _ ha => ha)
          (fun _ h => h.idle (by decide)) (by simp)
      -- Whether it has been opened by then is left to the pulse.
      exact hfired.trans (activeNow_continues hcall _)
  | deactivated =>
      have hfired : Continues p w
          ((w.mark p (.fired .deactivated)).updateActivation p ({ · with active := false })) :=
        .noted (.fired _) (marks_mark_self w p _)
          (fun a ha => life_updateActivation_self (w := w.mark p (.fired .deactivated)) ha _)
          (fun _ h => h.deactivate) (by simp)
      -- The flag is cleared before the handlers hear of it.
      exact hfired.trans (idle_continues hcall (by simp) (by simp))
  | updated =>
      have hfired : Continues p w (w.mark p (.fired .updated)) :=
        .noted (f := id) (.fired _) (marks_mark_self w p _) (fun _ ha => ha)
          (fun _ h => h.idle (by decide)) (by simp)
      refine hfired.trans ?_
      change Continues p _ ((w.mark p (.fired .updated)).updatedNow call p)
      rw [updatedNow]
      split
      · rename_i hactive
        -- The flags agree with the record, so an active channel has been opened on record as well.
        refine idle_continues hcall (by simp) fun hw _ => .inl ?_
        obtain ⟨a, ha, hagrees, -⟩ := hw
        rw [activation_of_life ha] at hactive
        exact ⟨hagrees.opened.mp (hagrees.both hactive), hagrees.active.mp hactive⟩
      · exact .flagged rfl (fun a ha => life_updateActivation_self ha _) fun _ => ⟨rfl, rfl⟩
  | opened =>
      obtain ⟨w₁, hw₁⟩ : ∃ w₁, w₁ = (w.mark p (.fired .opened)).updateActivation p
        ({ · with opened := true, pendingActive := false }) := ⟨_, rfl⟩
      -- Opening forgets an activation that waits, and brings it about afterwards.
      have hfired : Continues p w w₁ :=
        .noted (.fired _) (hw₁ ▸ marks_mark_self w p _)
          (fun a ha => hw₁ ▸ life_updateActivation_self (w := w.mark p (.fired .opened)) ha _)
          (fun _ h => h.opening) (by simp)
      have hstarted : Continues p w₁ (w₁.start call p .opened) :=
        idle_continues hcall (by simp) (by simp)
      change Continues p w ((w.mark p (.fired .opened)).openNow call p)
      rw [openNow, ← hw₁]
      split
      · exact (hfired.trans hstarted).trans (activeNow_continues hcall _)
      · exact hfired.trans hstarted

end Pulses

/-! ### Runs -/

theorem life_detach (hattached : (w.pipeline p).attachment.isSome = true) (ha : w.life p = some a) :
    (w.detach p).life p = some {} := by
  rw [detach]
  cases hattachment : (w.pipeline p).attachment with
  | none =>
      rw [hattachment] at hattached
      cases hattached
  | some x =>
      rw [life] at ha ⊢
      dsimp only [updatePipeline, mark]
      rw [List.getElem?_modify_eq]
      cases hp : w.pipelines[p]? with
      | none =>
          rw [hp] at ha
          cases ha
      | some y => rfl

theorem detach_continues (w : World σ) (p q : PipelineId) : Continues p w (w.detach q) := by
  -- A pipeline that was not attached is left as it is, with no mark.
  cases hattachment : (w.pipeline q).attachment with
  | none =>
      rw [detach, hattachment]
      exact .refl w
  | some x =>
      have hattached : (w.pipeline q).attachment.isSome = true := by rw [hattachment]; rfl
      by_cases hq : q = p
      · subst hq
        refine .noted (f := fun _ => {}) .detached ?_ (fun a ha => life_detach hattached ha)
          (fun _ _ => Agrees.detach _) (by simp)
        rw [detach, hattachment]
        exact marks_mark_self w q .detached
      · refine .of_vitals (Prod.ext ?_ ?_)
        · rw [vitals, life, detach, hattachment]
          dsimp only [updatePipeline, mark]
          rw [List.getElem?_modify_ne _ _ hq]
          rfl
        · rw [vitals, detach, hattachment]
          exact (marks_mark w q p .detached).trans (if_neg hq)

variable [Journal σ]

/-- Whatever handlers, sinks, listeners and tasks do, the record goes on and stays true. -/
theorem continues_endures (p : PipelineId) : Endures (Continues (σ := σ) p) where
  same := fun hsame => .of_vitals (Prod.ext (life_of_figure hsame p) (marks_of_figure hsame p))
  trans := Continues.trans
  pulse := by
    intro call hcall w q e
    by_cases hq : q = p
    · subst hq
      exact pulse_continues hcall w e
    · -- Neither the flags nor the marks of another pipeline are a concern of this record.
      refine (continues_stolid hcall w).pulse (.refl w) (fun w' f hw' => ?_)
        (fun w' m hw' => ?_) e
      · refine hw'.trans (.of_vitals (Prod.ext ?_ rfl))
        exact (life_updateActivation w' q p f).trans (if_neg hq)
      · exact hw'.trans (.of_vitals (Prod.ext rfl ((marks_mark w' q p m).trans (if_neg hq))))
  move := by
    intro call hcall w q m
    have hvital : Vital (Continues p w) call :=
      { same := fun hw hsame => hw.trans (.of_vitals (congrFun hsame p))
        call := (continues_stolid hcall w).call }
    exact hvital.move (.refl w) q m
  detach := fun w q => detach_continues w p q
  newPipeline := by
    intro w
    -- A new pipeline comes behind all that there are, so none of them changes its place.
    refine .flagged (f := id) rfl (fun a ha => ?_) fun _ => ⟨rfl, rfl⟩
    rw [life] at ha ⊢
    obtain ⟨x, hx, rfl⟩ := Option.map_eq_some_iff.mp ha
    have hp := (List.getElem?_eq_some_iff.mp hx).1
    rw [List.getElem?_append_left hp, hx]
    rfl

/-- Whatever handlers, sinks, listeners and tasks do, and however deeply their calls are nested:
    at the end of a run the flags say what is on record of it, every dispatch of a pulse that
    has started is finished, and `message_updated` was dispatched while the channel was active,
    or else right after a dispatch of `channel_active` over which it ceased to be. -/
theorem undergoAll_annals (players : Players σ) (depth : Nat) (occasions : List (Occasion σ))
    (hfresh : w.life p = some {}) (hblank : w.marks p = []) :
    let w' := w.undergoAll (respond players.play depth) occasions
    (∃ a, w'.life p = some a ∧ (a.opened = true ↔ Opened (w'.marks p)) ∧
        (a.active = true ↔ Active (w'.marks p))) ∧
      Balanced (w'.marks p) ∧
      ∀ x y, w'.marks p = x ++ .started .updated :: y → Excused x := by
  intro w'
  have hendures := continues_endures (σ := σ) p
  have hrun := hendures.undergoAll (hendures.respond players depth) occasions w
  obtain ⟨ms, hms, hmarks⟩ := hrun.grown
  rw [hblank, List.nil_append] at hmarks
  have hbegun : w.Truthful p := by
    rw [Truthful, hblank]
    exact ⟨{}, hfresh, Agrees.nil, timely_nil⟩
  obtain ⟨a, ha, hagrees, htimely⟩ := hrun.truthful hbegun
  exact ⟨⟨a, ha, hagrees.opened, hagrees.active⟩, hmarks ▸ hms, htimely⟩

/-- A channel that has not been opened yet. -/
def sampleWaiting : World Diary where
  pipelines :=
    [{ chain := (Edit.run Chain.edit {} sampleEar).1
       attachment := some { channel := 0, sink := .embedded 0, loop := .inline } }]
  contexts :=
    [sampleContext "h" [.channelOpen, .channelActive, .channelInactive, .messageUpdated]]
  channels := [{ pipeline := 0, loop := .inline, backing := .embedded 0 }]
  transports := [{}]
  held := [.channel 0]
  user := {}

/-- A handler that closes the channel as soon as it is active. -/
def sampleCloser : Players Diary
  | .handler c (.inbound .channelActive), _ =>
    recorded c (.inbound .channelActive) (.act (.request 0 .close) fun _ _ => .finish (.ok ()))
  | .handler c callback, _ => recorded c callback (.finish (.ok ()))
  | _, _ => .finish (.ok ())

/-- The channel has been opened and closed again. -/
theorem undergoAll_annals_sampleCloser :
    let w := sampleWaiting.undergoAll (respond sampleCloser.play 5)
      [.deed (.fire 0 .channelOpen), .deed (.fire 0 .channelActive)]
    Opened (w.marks 0) ∧ ¬ Active (w.marks 0) := by
  intro w
  obtain ⟨⟨a, ha, hopened, hactive⟩, -⟩ := undergoAll_annals sampleCloser 5
    [.deed (.fire 0 .channelOpen), .deed (.fire 0 .channelActive)] (w := sampleWaiting) (p := 0)
    rfl rfl
  have hlife : w.life 0 = some { opened := true } := by decide +kernel
  rw [hlife] at ha
  cases ha
  exact ⟨hopened.mp rfl, fun h => Bool.noConfusion (hactive.mpr h)⟩

/-- What was announced before the channel came to life is told after it has been closed. -/
theorem updated_after_close :
    let w := sampleWaiting.undergoAll (respond sampleCloser.play 5)
      [.deed (.fire 0 .messageUpdated), .deed (.fire 0 .channelOpen),
        .deed (.fire 0 .channelActive)]
    w.user.calls.map (fun x => x.callback.name) =
        ["channel_open", "channel_active", "channel_inactive", "message_updated"] ∧
      w.isOpen 0 = false ∧
      ∃ x y, w.marks 0 = x ++ .started .updated :: y ∧ ¬ Active x := by
  refine ⟨by decide +kernel, by decide +kernel, ?_⟩
  refine ⟨[.fired .updated, .fired .opened, .started .opened, .finished .opened,
    .fired .activated, .started .activated, .fired .deactivated, .started .deactivated,
    .finished .deactivated, .finished .activated], [.finished .updated], ?_, by decide⟩
  decide +kernel

end World

end Conduit
