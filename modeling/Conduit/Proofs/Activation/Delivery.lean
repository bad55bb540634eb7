import Conduit.Pipeline.Turn
import Conduit.Proofs.Activation.Pulse
import Conduit.Proofs.Dispatch.Inbound

/-!
# Pulses That Are Put Off

What a pipeline makes of the pulses that are injected into it one after the other, when
nobody fires any over what it dispatches. `channel_active` waits for `channel_open`, and
`message_updated` waits for `channel_active`, so what a pulse makes the pipeline dispatch
depends on all pulses before it. The flags are what the pipeline remembers of them, and the
statements are about the pulses themselves: `Tells` is what the flags say.

Two of the four flags outlive what they stand for. That `message_updated` is held back
survives `channel_inactive`, which is as it should be: it is told with the next
`channel_active`. That `channel_active` waits survives `channel_inactive` too, so
`channel_open` dispatches it although it has been overtaken, and the pipeline takes the
channel for active that was last said not to be. `Overtaken` says when.

Between two pulses anything may happen that leaves the flags alone: handlers come and go,
data moves, other events are fired, tasks run.

## Main definitions

* `Deliveries`: Pulses, each with what it made the pipeline dispatch at the head.
* `Live`: The last that was said of the channel is that it is active.
* `Held`, `Overtaken`: What is put off.
* `World.Injected`: A run in which nobody but its driver fires pulses.
* `Tells`: What the flags say of it.

## Theorems

* `marks_append`, `injected_append`, `injected_cons`, `injected_nil`, `dispatched_append`,
  `dispatched_cons`, `dispatched_nil`: Logs that are put together.
* `dispatched_split`: A pulse that was dispatched was so over one that was injected.
* `live_append`, `live_cons`, `live_mem`, `live_of_mem`: What pulses say of the channel.
* `held_concat`: When `message_updated` is held back.
* `activated_mem_take`, `take_opened`, `deactivated_mem_take`, `live_take`, `turns_take`,
  `take_shape`: What a pulse makes the pipeline dispatch.
* `opened_take`, `active_take`, `pendingActive_take`, `pendingUpdate_take`: What becomes of
  the flags.
* `tells_nil`, `Tells.take`: What the flags say at first, and after one pulse more.
* `Injected.fire`, `Injected.task`, `Injected.post`: How pulses are injected.
* `Injected.tells`: What the flags say of the pulses.
* `Injected.marks`: And it is what is on record.
* `Injected.delivered`: What a pulse made the pipeline dispatch.
* `Injected.not_activated`, `Injected.opened_mem`, `Injected.activated_iff`,
  `Injected.turns_dispatched`: Before and after `channel_open`.
* `sampleScribe_quiet`: Handlers that only take down what they hear.
* `injected_updates`: When `message_updated` is dispatched.
* `injected_updates_sampleListening`: What is announced before the channel comes to life.
* `injected_activation`: When `channel_active` is, and whether the channel counts as active.
* `injected_activation_sampleListening`, `activated_overtaken`: One that waits, and one that
  is overtaken while it waits.
-/

namespace Conduit

/-- Pulses, each with what it made the pipeline dispatch at the head. -/
abbrev Deliveries := List (Pulse × List Pulse)

namespace Deliveries

/-- The pulses that were injected. -/
def injected (log : Deliveries) : List Pulse := log.map Prod.fst

/-- The pulses that were dispatched. -/
def dispatched (log : Deliveries) : List Pulse := log.flatMap Prod.snd

/-- What is on record of them, if that is all that happened. -/
def marks (log : Deliveries) : List Mark :=
  log.flatMap fun d => .fired d.1 :: d.2.flatMap Pulse.brief

theorem marks_append (x y : Deliveries) : marks (x ++ y) = marks x ++ marks y :=
  List.flatMap_append

@[simp] theorem injected_append (x y : Deliveries) :
    injected (x ++ y) = injected x ++ injected y := List.map_append

@[simp] theorem injected_cons (d : Pulse × List Pulse) (log : Deliveries) :
    injected (d :: log) = d.1 :: injected log := rfl

@[simp] theorem injected_nil : injected [] = [] := rfl

@[simp] theorem dispatched_append (x y : Deliveries) :
    dispatched (x ++ y) = dispatched x ++ dispatched y := List.flatMap_append

@[simp] theorem dispatched_cons (d : Pulse × List Pulse) (log : Deliveries) :
    dispatched (d :: log) = d.2 ++ dispatched log := rfl

@[simp] theorem dispatched_nil : dispatched [] = [] := rfl

/-- A pulse that was dispatched was so over one that was injected. -/
theorem dispatched_split {log : Deliveries} {u v : List Pulse} {d : Pulse}
    (h : dispatched log = u ++ d :: v) :
    ∃ x e ds y s t, log = x ++ (e, ds) :: y ∧ ds = s ++ d :: t ∧ u = dispatched x ++ s := by
  induction log generalizing u with
  | nil => simp at h
  | cons first log ih =>
      -- The cut is in what comes later, or within what the first pulse made for.
      rw [dispatched_cons, List.append_eq_append_iff] at h
      rcases h with ⟨u, rfl, hrest⟩ | ⟨t, hfirst, hrest⟩
      · obtain ⟨x, e, ds, y, s, t, rfl, hds, rfl⟩ := ih hrest
        exact ⟨first :: x, e, ds, y, s, t, rfl, hds, by simp⟩
      · cases t with
        | nil =>
            obtain ⟨x, e, ds, y, s, t, rfl, hds, hu⟩ := ih (u := []) hrest.symm
            refine ⟨first :: x, e, ds, y, s, t, rfl, hds, ?_⟩
            rw [dispatched_cons, List.append_assoc, ← hu, hfirst, List.append_nil,
              List.append_nil]
        | cons d' t =>
            cases hrest
            exact ⟨[], first.1, first.2, log, u, t, rfl, hfirst, rfl⟩

end Deliveries

open Deliveries

/-! ### What was said last -/

/-- It says whether the channel is active. -/
def Pulse.turns (e : Pulse) : Bool := e = .activated || e = .deactivated

/-- The last that was said of the channel is that it is active. -/
def Live (es : List Pulse) : Prop := Lasts .activated (· == .deactivated) es

instance (es : List Pulse) : Decidable (Live es) :=
  inferInstanceAs (Decidable (Lasts _ _ _))

theorem live_append {x y : List Pulse} :
    Live (x ++ y) ↔ Live y ∨ Live x ∧ .deactivated ∉ y := by
  have hy : (∀ e ∈ y, (e == .deactivated) = false) ↔ .deactivated ∉ y := by
    simp only [beq_eq_false_iff_ne]
    exact ⟨fun h hmem => h _ hmem rfl, fun h e he hdown => h (hdown ▸ he)⟩
  rw [Live, lasts_append, hy]
  rfl

theorem live_cons {es : List Pulse} : Live (.opened :: es) ↔ Live es := Iff.rfl

theorem live_mem {es : List Pulse} (h : Live es) : .activated ∈ es := lasts_mem h

theorem live_of_mem {es : List Pulse} (hup : .activated ∈ es) (hdown : .deactivated ∉ es) :
    Live es :=
  lasts_of_mem hup fun e he => by
    rw [beq_eq_false_iff_ne]
    exact fun h => hdown (h ▸ he)

/-- It was said that the channel is active, and later that it is not. -/
def Overtaken (es : List Pulse) : Prop := .activated ∈ es ∧ ¬ Live es

instance (es : List Pulse) : Decidable (Overtaken es) := inferInstanceAs (Decidable (_ ∧ _))

/-- `message_updated` was injected while the channel was not active, and `channel_active` has
    not been dispatched since. -/
def Held (log : Deliveries) : Prop :=
  ∃ x ds y, log = x ++ (.updated, ds) :: y ∧ ¬ Live (dispatched x) ∧ .activated ∉ dispatched y

theorem held_concat {log : Deliveries} {e : Pulse} {ds : List Pulse} :
    Held (log ++ [(e, ds)]) ↔
      e = .updated ∧ ¬ Live (dispatched log) ∨ Held log ∧ .activated ∉ ds := by
  constructor
  · rintro ⟨x, ds', y, hlog, hlive, hsince⟩
    -- The announcement is the last entry, or it stood before that one already.
    rcases List.eq_nil_or_concat y with rfl | ⟨y, d, rfl⟩
    · obtain ⟨rfl, hd⟩ := List.append_inj' hlog rfl
      cases hd
      exact .inl ⟨rfl, hlive⟩
    · rw [List.concat_eq_append, ← List.cons_append, ← List.append_assoc] at hlog
      obtain ⟨rfl, hd⟩ := List.append_inj' hlog rfl
      cases hd
      simp only [List.concat_eq_append, dispatched_append, dispatched_cons, dispatched_nil,
        List.append_nil, List.mem_append, not_or] at hsince
      exact .inr ⟨⟨x, ds', y, rfl, hlive, hsince.1⟩, hsince.2⟩
  · rintro (⟨rfl, hlive⟩ | ⟨⟨x, ds', y, rfl, hlive, hsince⟩, hds⟩)
    · exact ⟨log, ds, [], rfl, hlive, List.not_mem_nil⟩
    · exact ⟨x, ds', y ++ [(e, ds)], by simp, hlive, by simp [hsince, hds]⟩

/-! ### What the flags say -/

/-- What the flags of a pipeline say of the pulses so far. -/
structure Tells (log : Deliveries) (a : Activation) : Prop where
  opened : a.opened = true ↔ .opened ∈ injected log
  active : a.active = true ↔ Live (dispatched log)
  pendingActive : a.pendingActive = true ↔ .opened ∉ injected log ∧ .activated ∈ injected log
  pendingUpdate : a.pendingUpdate = true ↔ Held log

namespace Activation

variable {a : Activation} {e : Pulse}

theorem activated_mem_take : .activated ∈ (a.take e).1 ↔
    e = .activated ∧ a.opened = true ∨ e = .opened ∧ a.pendingActive = true := by
  obtain ⟨_ | _, _ | _, _ | _, _ | _⟩ := a <;> cases e <;> decide

theorem take_opened (a : Activation) : ∃ r, (a.take .opened).1 = .opened :: r := by
  rw [take]
  split
  · exact ⟨_, rfl⟩
  · exact ⟨_, rfl⟩

theorem deactivated_mem_take : .deactivated ∈ (a.take e).1 ↔ e = .deactivated := by
  obtain ⟨_ | _, _ | _, _ | _, _ | _⟩ := a <;> cases e <;> decide

theorem opened_take : (a.take e).2.opened = true ↔ a.opened = true ∨ e = .opened := by
  obtain ⟨_ | _, _ | _, _ | _, _ | _⟩ := a <;> cases e <;> decide

theorem active_take : (a.take e).2.active = true ↔
    .activated ∈ (a.take e).1 ∨ a.active = true ∧ e ≠ .deactivated := by
  obtain ⟨_ | _, _ | _, _ | _, _ | _⟩ := a <;> cases e <;> decide

theorem pendingActive_take : (a.take e).2.pendingActive = true ↔
    e ≠ .opened ∧ (a.pendingActive = true ∨ e = .activated ∧ a.opened = false) := by
  obtain ⟨_ | _, _ | _, _ | _, _ | _⟩ := a <;> cases e <;> decide

theorem pendingUpdate_take : (a.take e).2.pendingUpdate = true ↔
    e = .updated ∧ a.active = false ∨ a.pendingUpdate = true ∧ .activated ∉ (a.take e).1 := by
  obtain ⟨_ | _, _ | _, _ | _, _ | _⟩ := a <;> cases e <;> decide

/-- A pulse makes the pipeline dispatch `channel_active` just if that is the last that it says
    of the channel. -/
theorem live_take : Live (a.take e).1 ↔ .activated ∈ (a.take e).1 := by
  refine ⟨live_mem, fun hup => live_of_mem hup fun hdown => ?_⟩
  rw [deactivated_mem_take] at hdown
  subst hdown
  simp [activated_mem_take] at hup

/-- Once the channel is open, what a pulse makes the pipeline dispatch says the same of it. -/
theorem turns_take (hopened : a.opened = true) (hpending : a.pendingActive = false) :
    (a.take e).1.filter Pulse.turns = [e].filter Pulse.turns := by
  cases e with
  | opened => rw [take, if_neg (by rw [hpending]; exact Bool.false_ne_true)]
  | activated =>
      rw [take, activate_opened hopened]
      dsimp only
      split <;> rfl
  | deactivated => rfl
  | updated =>
      rw [take]
      split <;> rfl

/-- If `channel_active` is dispatched, it is at the end, but for what was held back. -/
theorem take_shape (a : Activation) (he : e ≠ .updated) :
    ∃ u, (∀ d ∈ u, d = .opened ∨ d = .deactivated) ∧
      ((a.take e).1 = u ∨
        (a.take e).1 = u ++ .activated :: if a.pendingUpdate then [.updated] else []) := by
  cases e with
  | updated => exact absurd rfl he
  | deactivated => exact ⟨[.deactivated], by simp, .inl rfl⟩
  | activated =>
      rw [take, activate]
      split
      · exact ⟨[], by simp, .inr rfl⟩
      · exact ⟨[], by simp, .inl rfl⟩
  | opened =>
      rw [take]
      split
      · exact ⟨[.opened], by simp, .inr rfl⟩
      · exact ⟨[.opened], by simp, .inl rfl⟩

end Activation

/-- The flags say the same of one pulse more. -/
theorem Tells.take {log : Deliveries} {a : Activation} (h : Tells log a) (e : Pulse) :
    Tells (log ++ [(e, (a.take e).1)]) (a.take e).2 where
  opened := by
    rw [Activation.opened_take, h.opened]
    simp [eq_comm]
  active := by
    have hlog : dispatched (log ++ [(e, (a.take e).1)]) = dispatched log ++ (a.take e).1 := by
      simp
    rw [Activation.active_take, h.active, hlog, live_append, Activation.live_take,
      Activation.deactivated_mem_take]
  pendingActive := by
    rw [Activation.pendingActive_take, h.pendingActive, ← Bool.not_eq_true, h.opened]
    simp only [injected_append, injected_cons, injected_nil, List.mem_append, List.mem_singleton,
      eq_comm (b := e)]
    grind
  pendingUpdate := by
    rw [Activation.pendingUpdate_take, h.pendingUpdate, ← Bool.not_eq_true, h.active, held_concat]

theorem tells_nil : Tells [] {} where
  opened := by simp
  active := by decide
  pendingActive := by simp
  pendingUpdate := by simp [Held]

/-! ### Runs -/

namespace World

variable {σ : Type} [Journal σ] {w w' w₀ : World σ} {p : PipelineId} {call : Caller σ}
  {log x y : Deliveries} {e : Pulse} {ds : List Pulse}

/-- A run in which pulses are injected into a pipeline, and nobody fires any over what they
    make the pipeline dispatch. Between them the flags are left alone, and nothing of the kind
    is on record: no pulse is fired, none is dispatched, and nobody detaches the pipeline. -/
inductive Injected (call : Caller σ) (p : PipelineId) (w₀ : World σ) :
    Deliveries → World σ → Prop where
  | start : Injected call p w₀ [] w₀
  | aside {log : Deliveries} {w w' : World σ} (h : Injected call p w₀ log w)
    (hlife : w'.life p = w.life p) (hmarks : w'.marks p = w.marks p) : Injected call p w₀ log w'
  | pulse {log : Deliveries} {w : World σ} (h : Injected call p w₀ log w) (e : Pulse)
    (hquiet : w.Quiet call p e) :
    Injected call p w₀ (log ++ [(e, (w.starts call p e).map Prod.snd)]) (w.runJob call p e.job)

namespace Injected

/-- A pulse is injected by firing it on the thread of the event loop. -/
theorem fire (h : Injected call p w₀ log w) (hin : w.inLoop (w.loopOf p) = true) (e : Pulse)
    (hquiet : w.Quiet call p e) :
    Injected call p w₀ (log ++ [(e, (w.starts call p e).map Prod.snd)])
      (w.fire call p e.event) := by
  rw [fire_pulse hin]
  exact h.pulse e hquiet

/-- Elsewhere it is posted, or refused. That alone does nothing to the flags. -/
theorem post (h : Injected call p w₀ log w) (hin : w.inLoop (w.loopOf p) = false) (e : Pulse) :
    Injected call p w₀ log (w.fire call p e.event) := by
  have hvitals : (w.fire call p e.event).vitals p = w.vitals p := by
    rw [fire_execute, execute, if_neg (by rw [hin]; exact Bool.false_ne_true)]
    split
    · rfl
    · cases e <;> rfl
  exact h.aside (life_of_vitals hvitals) (marks_of_vitals hvitals)

/-- What was posted is injected when its turn comes. -/
theorem task (h : Injected call p w₀ log w) (e : Pulse)
    (hquiet : (w.hold (.pipeline p)).Quiet call p e) :
    Injected call p w₀
      (log ++ [(e, ((w.hold (.pipeline p)).starts call p e).map Prod.snd)])
      (w.runTask call (.pipeline p e.job)) :=
  have hheld : Injected call p w₀ log (w.hold (.pipeline p)) := h.aside rfl rfl
  (hheld.pulse e hquiet).aside rfl rfl

/-- The flags say what has been injected and dispatched. -/
theorem tells (h : Injected call p w₀ log w) (h₀ : w₀.life p = some {}) :
    ∃ a, w.life p = some a ∧ Tells log a := by
  induction h with
  | start => exact ⟨{}, h₀, tells_nil⟩
  | aside _ hlife _ ih =>
      obtain ⟨a, ha, htells⟩ := ih
      exact ⟨a, hlife.trans ha, htells⟩
  | pulse _ e hquiet ih =>
      obtain ⟨a, ha, htells⟩ := ih
      obtain ⟨hstarts, hvitals⟩ := heralded_quiet ha hquiet
      rw [hstarts]
      exact ⟨_, congrArg Prod.fst hvitals, htells.take e⟩

/-- What has been injected and dispatched is what is on record. -/
theorem marks (h : Injected call p w₀ log w) (h₀ : w₀.life p = some {}) :
    w.marks p = w₀.marks p ++ log.marks := by
  induction h with
  | start => exact (List.append_nil _).symm
  | aside _ _ hmarks ih => rw [hmarks, ih]
  | pulse h e hquiet ih =>
      obtain ⟨a, ha, -⟩ := h.tells h₀
      obtain ⟨hstarts, hvitals⟩ := heralded_quiet ha hquiet
      have hmarks := congrArg Prod.snd hvitals
      dsimp only [vitals] at hmarks
      rw [hmarks, ih, hstarts, marks_append, List.append_assoc]
      simp [Deliveries.marks]

/-- What a pulse made the pipeline dispatch depends on the pulses before it. -/
theorem delivered (h : Injected call p w₀ log w) (h₀ : w₀.life p = some {})
    (hlog : log = x ++ (e, ds) :: y) : ∃ a, Tells x a ∧ ds = (a.take e).1 := by
  induction h generalizing y with
  | start => simp at hlog
  | aside _ _ _ ih => exact ih hlog
  | @pulse log w h e' hquiet ih =>
      rcases List.eq_nil_or_concat y with rfl | ⟨y, d, rfl⟩
      · obtain ⟨rfl, hd⟩ := List.append_inj' hlog rfl
        cases hd
        obtain ⟨a, ha, htells⟩ := h.tells h₀
        exact ⟨a, htells, (heralded_quiet ha hquiet).1⟩
      · rw [List.concat_eq_append, ← List.cons_append, ← List.append_assoc] at hlog
        exact ih (List.append_inj' hlog rfl).1

/-- Before `channel_open` is injected, `channel_active` is not dispatched. -/
theorem not_activated (h : Injected call p w₀ log w) (h₀ : w₀.life p = some {})
    (hlog : log = x ++ y) (hopened : .opened ∉ injected x) : .activated ∉ dispatched x := by
  intro hmem
  obtain ⟨d, hd, hup⟩ := List.mem_flatMap.mp hmem
  obtain ⟨u, v, rfl⟩ := List.append_of_mem hd
  obtain ⟨a, htells, hds⟩ := h.delivered h₀
    (show log = u ++ (d.1, d.2) :: (v ++ y) by simp [hlog])
  rw [hds, Activation.activated_mem_take, htells.opened] at hup
  simp only [injected_append, injected_cons, List.mem_append, List.mem_cons, not_or] at hopened
  rcases hup with ⟨-, hup⟩ | ⟨hup, -⟩
  · exact hopened.1 hup
  · exact hopened.2.1 hup.symm

/-- `channel_open` is dispatched wherever it is injected. -/
theorem opened_mem (h : Injected call p w₀ log w) (h₀ : w₀.life p = some {})
    (hlog : log = x ++ y) (hopened : .opened ∈ injected x) : .opened ∈ dispatched x := by
  obtain ⟨⟨e, ds⟩, hd, rfl⟩ := List.mem_map.mp hopened
  obtain ⟨u, v, rfl⟩ := List.append_of_mem hd
  obtain ⟨a, -, rfl⟩ := h.delivered h₀
    (show log = u ++ (.opened, ds) :: (v ++ y) by simp [hlog])
  obtain ⟨r, hr⟩ := a.take_opened
  simp [hr]

/-- After it, `channel_active` is dispatched just where it is injected. -/
theorem activated_iff (h : Injected call p w₀ log w) (h₀ : w₀.life p = some {})
    (hlog : log = x ++ (e, ds) :: y) (hopened : .opened ∈ injected x) :
    .activated ∈ ds ↔ e = .activated := by
  obtain ⟨a, htells, rfl⟩ := h.delivered h₀ hlog
  rw [Activation.activated_mem_take, htells.opened, htells.pendingActive]
  grind

/-- After it, what is dispatched says the same of the channel as what is injected. -/
theorem turns_dispatched (h : Injected call p w₀ log w) (h₀ : w₀.life p = some {})
    (hlog : log = x ++ y) (hopened : .opened ∈ injected x) :
    (dispatched y).filter Pulse.turns = (injected y).filter Pulse.turns := by
  -- By induction on what is left; each pulse goes over to those that came before.
  induction y generalizing x with
  | nil => rfl
  | cons d y ih =>
      obtain ⟨e, ds⟩ := d
      have hrest := ih (show log = (x ++ [(e, ds)]) ++ y by simp [hlog]) (by simp [hopened])
      obtain ⟨a, htells, hds⟩ := h.delivered h₀ hlog
      have hpending : a.pendingActive = false := by
        rw [← Bool.not_eq_true, htells.pendingActive]
        exact fun hwaits => hwaits.1 hopened
      have hhead : ds.filter Pulse.turns = [e].filter Pulse.turns := by
        rw [hds]
        exact Activation.turns_take (htells.opened.mpr hopened) hpending
      rw [dispatched_cons, List.filter_append, hhead, hrest, injected_cons, ← List.filter_append,
        List.singleton_append]

end Injected

/-- One handler that hears all pulses. -/
def sampleEar : List Edit :=
  [.insert ⟨0, "h", .ofList [.channelOpen, .channelActive, .channelInactive, .messageUpdated]⟩
    .last]

def sampleListening : World Diary where
  pipelines := [{ chain := (Edit.run Chain.edit {} sampleEar).1 }]
  contexts :=
    [sampleContext "h" [.channelOpen, .channelActive, .channelInactive, .messageUpdated]]
  held := [.pipeline 0]
  user := {}

/-- A handler that keeps a record of its calls, and does nothing else. -/
def sampleScribe : Caller Diary := Cast.play (fun _ _ _ => .stop) fun _ w => (.ok (), w)

theorem sampleScribe_quiet (w : World Diary) (p : PipelineId) (e : Pulse) :
    w.Quiet sampleScribe p e :=
  quiet_of_call (fun upcall w => by cases upcall <;> rfl) w e

/-! ### `message_updated` -/

/-- `channel_active` is not dispatched before `channel_open`. What is announced while the
    channel is active is dispatched at once and once. What is announced while it is not makes
    for no dispatch until the next one of `channel_active`, and for exactly one right after
    that, however often it was. There is no other dispatch of `message_updated`: those here
    are all that are on record. And the pipeline counts as active just if `channel_active` has
    been dispatched last. -/
theorem injected_updates (h₀ : w₀.life p = some {}) (h : Injected call p w₀ log w) :
    w.marks p = w₀.marks p ++ log.marks ∧
      (∀ u v, dispatched log = u ++ .activated :: v → .opened ∈ u) ∧
      (∀ x ds y, log = x ++ (.updated, ds) :: y →
        (Live (dispatched x) → ds = [.updated]) ∧ (¬ Live (dispatched x) → ds = [])) ∧
      (∀ x e ds y, log = x ++ (e, ds) :: y → e ≠ .updated →
        (∀ u v, ds = u ++ .activated :: v →
          .updated ∉ u ∧ (Held x → v = [.updated]) ∧ (¬ Held x → v = [])) ∧
        (.activated ∉ ds → .updated ∉ ds)) ∧
      ∃ a, w.life p = some a ∧ (a.active = true ↔ Live (dispatched log)) := by
  refine ⟨h.marks h₀, fun u v hsplit => ?_, ?_, ?_, ?_⟩
  · obtain ⟨x, e, ds, y, s, t, hlog, hds, rfl⟩ := dispatched_split hsplit
    obtain ⟨a, htells, htake⟩ := h.delivered h₀ hlog
    have hup : .activated ∈ (a.take e).1 := by simp [← htake, hds]
    rcases Activation.activated_mem_take.mp hup with ⟨-, hopened⟩ | ⟨rfl, -⟩
    · exact List.mem_append_left s (h.opened_mem h₀ hlog (htells.opened.mp hopened))
    · -- What was waiting comes after the `channel_open` that it was waiting for.
      obtain ⟨r, hr⟩ := a.take_opened
      rw [htake, hr] at hds
      cases s with
      | nil => cases hds
      | cons d s =>
          cases hds
          simp
  · -- What is announced is told at once or not at all, by the flag for `channel_active`.
    intro x ds y hlog
    obtain ⟨a, htells, hds⟩ := h.delivered h₀ hlog
    rw [hds, Activation.take, ← htells.active]
    exact ⟨fun hactive => by rw [if_pos hactive], fun hactive => by rw [if_neg hactive]⟩
  · -- Any other pulse tells it only behind a `channel_active`, by the flag for what is held back.
    intro x e ds y hlog he
    obtain ⟨a, htells, hds⟩ := h.delivered h₀ hlog
    obtain ⟨u, hu, hshape⟩ := a.take_shape he
    have hup : .activated ∉ u := fun hmem => by rcases hu _ hmem with h | h <;> cases h
    have hupdated : .updated ∉ u := fun hmem => by rcases hu _ hmem with h | h <;> cases h
    rw [hds, ← htells.pendingUpdate]
    rcases hshape with hshape | hshape
    · rw [hshape]
      refine ⟨fun u' v' hsplit => absurd ?_ hup, fun _ => hupdated⟩
      simp [hsplit]
    · rw [hshape]
      refine ⟨fun u' v' hsplit => ?_, fun hmem => absurd (by simp) hmem⟩
      have hrest : Pulse.activated ∉ if a.pendingUpdate = true then [Pulse.updated] else [] := by
        split <;> decide
      obtain ⟨rfl, -, rfl⟩ := (List.append_cons_inj_of_notMem hup hrest).mp hsplit
      exact ⟨hupdated, fun hheld => by rw [if_pos hheld], fun hheld => by rw [if_neg hheld]⟩
  · obtain ⟨a, ha, htells⟩ := h.tells h₀
    exact ⟨a, ha, htells.active⟩

/-- What is announced twice before `channel_open` is told once, after the `channel_active` that
    was waiting for it. -/
theorem injected_updates_sampleListening :
    ∃ log w, Injected sampleScribe 0 sampleListening log w ∧
      log = [(.updated, []), (.activated, []), (.updated, []),
        (.opened, [.opened, .activated, .updated]), (.updated, [.updated]),
        (.deactivated, [.deactivated]), (.updated, [])] ∧
      w.user.calls.map (fun x => x.callback.name) =
        ["channel_open", "channel_active", "message_updated", "message_updated",
          "channel_inactive"] ∧
      ∃ a, w.life 0 = some a ∧ (a.active = true ↔ Live (dispatched log)) := by
  have quiet := fun w e => sampleScribe_quiet w 0 e
  have h := ((((((Injected.start.fire rfl .updated (quiet sampleListening _)).fire rfl .activated
    (quiet _ _)).fire rfl .updated (quiet _ _)).fire rfl .opened (quiet _ _)).fire rfl .updated
    (quiet _ _)).fire rfl .deactivated (quiet _ _)).fire rfl .updated (quiet _ _)
  exact ⟨_, _, h, by decide +kernel, by decide +kernel, (injected_updates rfl h).2.2.2.2⟩

/-! ### `channel_active` -/

/-- Before `channel_open` is injected, `channel_active` waits. With it `channel_active` is
    dispatched if it was injected and not overtaken, and also if it was overtaken. After it,
    each `channel_active` is dispatched where it is injected. In the end the pipeline counts as
    active if that was injected last, and also if one that was overtaken has been dispatched
    and nothing was said since. -/
theorem injected_activation (h₀ : w₀.life p = some {}) (h : Injected call p w₀ log w) :
    ∃ a, w.life p = some a ∧
      (.opened ∉ injected log → .activated ∉ dispatched log ∧ a.active = false) ∧
      ∀ x ds y, log = x ++ (.opened, ds) :: y → .opened ∉ injected x →
        .activated ∉ dispatched x ∧
        (.activated ∈ ds ↔ Live (injected x) ∨ Overtaken (injected x)) ∧
        (∀ d ∈ y, .activated ∈ d.2 ↔ d.1 = .activated) ∧
        (a.active = true ↔ Live (injected log) ∨
          Overtaken (injected x) ∧ .activated ∉ injected y ∧ .deactivated ∉ injected y) := by
  obtain ⟨a, ha, htells⟩ := h.tells h₀
  refine ⟨a, ha, fun hclosed => ?_, fun x ds y hlog hclosed => ?_⟩
  · have hup := h.not_activated h₀ (List.append_nil log).symm hclosed
    refine ⟨hup, ?_⟩
    rw [← Bool.not_eq_true, htells.active]
    exact fun hlive => hup (live_mem hlive)
  · have hbefore := h.not_activated h₀ hlog hclosed
    obtain ⟨b, hb, hds⟩ := h.delivered h₀ hlog
    -- With `channel_open` goes what was waiting, and whether it was overtaken is not asked.
    have hwaits : .activated ∈ ds ↔ .activated ∈ injected x := by
      rw [hds, Activation.activated_mem_take, hb.pendingActive]
      simp [hclosed]
    have hafter : log = (x ++ [(.opened, ds)]) ++ y := by simp [hlog]
    have hopened : .opened ∈ injected (x ++ [(.opened, ds)]) := by simp
    have hturns := h.turns_dispatched h₀ hafter hopened
    -- Only two pulses count for this, and these come out as they went in.
    have hsaid : Live (dispatched y) ↔ Live (injected y) := by
      exact Eq.congr_left (congrArg List.getLast? hturns)
    have hdown : .deactivated ∈ dispatched y ↔ .deactivated ∈ injected y := by
      have hmem := congrArg (Pulse.deactivated ∈ ·) hturns
      simpa [Pulse.turns] using hmem
    have hdelivered : Live ds ↔ .activated ∈ injected x := by
      rw [hds, Activation.live_take, ← hds, hwaits]
    refine ⟨hbefore, ?_, ?_, ?_⟩
    · rw [hwaits, Overtaken]
      have hup : Live (injected x) → .activated ∈ injected x := live_mem
      grind
    · intro d hd
      obtain ⟨u, v, rfl⟩ := List.append_of_mem hd
      exact h.activated_iff h₀
        (show log = (x ++ (.opened, ds) :: u) ++ (d.1, d.2) :: v by simp [hlog]) (by simp)
    · rw [htells.active, hlog, dispatched_append, dispatched_cons, live_append, live_append, hsaid,
        hdelivered, List.mem_append, hdown, injected_append, injected_cons, live_append,
        live_cons, Overtaken]
      have hnot : ¬ Live (dispatched x) := fun hlive => hbefore (live_mem hlive)
      have hup : Live (injected x) → .activated ∈ injected x := live_mem
      by_cases hlast : Live (injected y)
      · simp only [hlast, true_or]
      · by_cases hgone : .deactivated ∈ injected y
        · simp only [hlast, hgone, List.mem_cons, or_true, not_true, and_false, or_self]
        · -- Nothing has been said since.
          have hsilent : .activated ∉ injected y := fun h => hlast (live_of_mem h hgone)
          simp only [hlast, hgone, hsilent, hnot, List.mem_cons, reduceCtorEq, or_self,
            not_false_eq_true, false_and, or_false, and_true, false_or]
          grind

/-- A `channel_active` that waits is told with `channel_open`, and one that follows is told at
    once. -/
theorem injected_activation_sampleListening :
    ∃ log w, Injected sampleScribe 0 sampleListening log w ∧
      log = [(.activated, []), (.opened, [.opened, .activated]), (.deactivated, [.deactivated]),
        (.activated, [.activated])] ∧
      ∃ a, w.life 0 = some a ∧ (a.active = true ↔ Live (injected log)) := by
  have quiet := fun w e => sampleScribe_quiet w 0 e
  have h := (((Injected.start.fire rfl .activated (quiet sampleListening _)).fire rfl .opened
    (quiet _ _)).fire rfl .deactivated (quiet _ _)).fire rfl .activated (quiet _ _)
  obtain ⟨a, ha, -, hafter⟩ := injected_activation rfl h
  have hactive := (hafter [(.activated, [])] [.opened, .activated]
    [(.deactivated, [.deactivated]), (.activated, [.activated])] (by decide +kernel)
    (by decide)).2.2.2
  have hnot : ¬ Overtaken (injected [(.activated, [])]) := by decide
  refine ⟨_, _, h, by decide +kernel, a, ha, ?_⟩
  rw [hactive]
  simp only [hnot, false_and, or_false]

/-- A `channel_active` that was overtaken by `channel_inactive` while it waited is dispatched all
    the same, and the pipeline counts as active. -/
theorem activated_overtaken :
    ∃ log w, Injected sampleScribe 0 sampleListening log w ∧
      log = [(.activated, []), (.deactivated, [.deactivated]), (.opened, [.opened, .activated])] ∧
      w.user.calls.map (fun x => x.callback.name) =
        ["channel_inactive", "channel_open", "channel_active"] ∧
      w.life 0 = some { opened := true, active := true } ∧ ¬ Live (injected log) := by
  have quiet := fun w e => sampleScribe_quiet w 0 e
  have h := ((Injected.start.fire rfl .activated (quiet sampleListening _)).fire rfl .deactivated
    (quiet _ _)).fire rfl .opened (quiet _ _)
  exact ⟨_, _, h, by decide +kernel, by decide +kernel, by decide +kernel, by decide +kernel⟩

end World

end Conduit
