import Conduit.Pipeline.Context

/-!
# Bare Worlds

A world without the data that travels through it. Which handlers an event reaches
depends on chains, contexts and attachments, and on who holds what; it does not
depend on the containers that the event finds on its way. `bare` empties all of
them, so that two worlds with one bare world are the same as far as dispatch can
tell, and a statement about a bare world says of everything else what became of
it.

Whatever moves data leaves the bare world alone, and whatever does not look at data
cannot tell two worlds apart that have one bare world.

## Main definitions

* `Context.bare`, `Pipeline.bare`, `Transport.bare`: The parts without data.
* `World.bare`: A world without data.

## Theorems

* `map_modify_of_same`: A change that a map does not see.
* `bare_updateContext`, `bare_updatePipeline`, `bare_updateTransport`: Single parts.
* `bare_setContainer`, `bare_updateContainer`, `bare_moveAll`, `bare_forwardInbound`,
  `bare_forwardOutbound`: Moving data leaves the bare world alone.
* `bare_notice`, `bare_hold`, `bare_release`: Everything else is done to it as well.
* `release_hold`: Nothing stays of what was held for a while.
* `getD_congr`, `context_congr`, `pipeline_congr`, `transport_congr`, `chain_congr`,
  `attachment_congr`, `loopOf_congr`: Worlds that differ in their data only agree otherwise.
-/

namespace Conduit

/-- A context without the data that waits for it. -/
def Context.bare (x : Context) : Context :=
  { x with inbound := Container.new, outbound := Container.new }

/-- A pipeline without the data at its ends. -/
def Pipeline.bare (x : Pipeline) : Pipeline :=
  { x with tailBuffer := Container.new, sinkBuffer := Container.new }

/-- A transport without what it has collected and what it was given to keep. -/
def Transport.bare (x : Transport) : Transport :=
  { x with
    inbound := Container.new
    outbound := Container.new
    exceptions := []
    userEvents := [] }

namespace World

variable {σ : Type}

/-- A world without the data that waits anywhere. -/
def bare (w : World σ) : World σ :=
  { w with
    contexts := w.contexts.map Context.bare
    pipelines := w.pipelines.map Pipeline.bare
    transports := w.transports.map Transport.bare }

/-! ### Moving data -/

/-- Changing an element in a way that a map does not see does not change the mapped list. -/
theorem map_modify_of_same {α β : Type} {f : α → α} {g : α → β} (h : ∀ x, g (f x) = g x) :
    ∀ (l : List α) (i : Nat), (l.modify i f).map g = l.map g := by
  intro l
  induction l with
  | nil => intro i; cases i <;> rfl
  | cons x l ih =>
      intro i
      cases i with
      | zero => simp [h]
      | succ n => simp [ih n]

theorem bare_updateContext {f : Context → Context} (hf : ∀ x, (f x).bare = x.bare) (w : World σ)
    (c : ContextId) : (w.updateContext c f).bare = w.bare := by
  rw [updateContext, bare, map_modify_of_same hf]
  rfl

theorem bare_updatePipeline {f : Pipeline → Pipeline} (hf : ∀ x, (f x).bare = x.bare)
    (w : World σ) (p : PipelineId) : (w.updatePipeline p f).bare = w.bare := by
  rw [updatePipeline, bare, map_modify_of_same hf]
  rfl

theorem bare_updateTransport {f : Transport → Transport} (hf : ∀ x, (f x).bare = x.bare)
    (w : World σ) (t : TransportId) : (w.updateTransport t f).bare = w.bare := by
  rw [updateTransport, bare, map_modify_of_same hf]
  rfl

@[simp] theorem bare_setContainer (w : World σ) (place : Place) (x : Container) :
    (w.setContainer place x).bare = w.bare := by
  cases place with
  | inbound c => exact bare_updateContext (by intro y; rfl) w c
  | outbound c => exact bare_updateContext (by intro y; rfl) w c
  | tail p => exact bare_updatePipeline (by intro y; rfl) w p
  | sink p => exact bare_updatePipeline (by intro y; rfl) w p
  | nowhere => rfl

@[simp] theorem bare_updateContainer (w : World σ) (place : Place) (f : Container → Container) :
    (w.updateContainer place f).bare = w.bare :=
  bare_setContainer w place _

@[simp] theorem bare_moveAll (w : World σ) (source target : Place) :
    (w.moveAll source target).bare = w.bare := by
  rw [moveAll, bare_setContainer, bare_setContainer]

@[simp] theorem bare_forwardInbound (w : World σ) (c : ContextId) :
    (w.forwardInbound c).bare = w.bare := by
  rw [forwardInbound]
  by_cases hempty : (w.container (.inbound c)).isEmpty = true
  · rw [if_pos hempty]
  · rw [if_neg hempty, bare_moveAll]

@[simp] theorem bare_forwardOutbound (w : World σ) (c : ContextId) :
    (w.forwardOutbound c).bare = w.bare := by
  rw [forwardOutbound]
  by_cases hempty : (w.container (.outbound c)).isEmpty = true
  · rw [if_pos hempty]
  · rw [if_neg hempty, bare_moveAll]

/-! ### Everything else -/

theorem bare_notice [Journal σ] (w : World σ) (n : Notice) :
    (w.notice n).bare = w.bare.notice n := rfl

theorem bare_hold (w : World σ) (h : Holding) : (w.hold h).bare = w.bare.hold h := rfl

theorem bare_release (w : World σ) (h : Holding) : (w.release h).bare = w.bare.release h := rfl

theorem release_hold (w : World σ) (h : Holding) : (w.hold h).release h = w := by
  rw [hold, release, List.erase_cons_head]

/-- Elements that a map cannot tell apart agree in what does not look past the map. -/
theorem getD_congr {α β : Type} {g : α → α} {f : α → β} (hf : ∀ x, f (g x) = f x)
    {l l' : List α} (h : l'.map g = l.map g) (i : Nat) (d : α) :
    f (l'[i]?.getD d) = f (l[i]?.getD d) := by
  have hi : l'[i]?.map g = l[i]?.map g := by
    rw [← List.getElem?_map, h, List.getElem?_map]
  -- Out of range both elements are the default.
  cases hx : l[i]? with
  | none =>
      rw [hx, Option.map_none, Option.map_eq_none_iff] at hi
      rw [hi]
  | some x =>
      rw [hx, Option.map_some, Option.map_eq_some_iff] at hi
      rcases hi with ⟨y, hy, hxy⟩
      rw [hy, Option.getD_some, Option.getD_some, ← hf, hxy, hf]

section Reading

variable {w w' : World σ}

/-- Contexts that differ in their data only agree in everything else. -/
theorem context_congr {β : Type} {f : Context → β} (hf : ∀ x, f x.bare = f x)
    (h : w'.contexts.map Context.bare = w.contexts.map Context.bare) (c : ContextId) :
    f (w'.context c) = f (w.context c) :=
  getD_congr hf h c default

/-- Pipelines that differ in their data only agree in everything else. -/
theorem pipeline_congr {β : Type} {f : Pipeline → β} (hf : ∀ x, f x.bare = f x)
    (h : w'.pipelines.map Pipeline.bare = w.pipelines.map Pipeline.bare) (p : PipelineId) :
    f (w'.pipeline p) = f (w.pipeline p) :=
  getD_congr hf h p default

/-- Transports that differ in their data only agree in everything else. -/
theorem transport_congr {β : Type} {f : Transport → β} (hf : ∀ x, f x.bare = f x)
    (h : w'.transports.map Transport.bare = w.transports.map Transport.bare) (t : TransportId) :
    f (w'.transport t) = f (w.transport t) :=
  getD_congr hf h t default

variable (h : w'.pipelines.map Pipeline.bare = w.pipelines.map Pipeline.bare) (p : PipelineId)
include h

theorem chain_congr : w'.chain p = w.chain p :=
  pipeline_congr (f := Pipeline.chain) (fun _ => rfl) h p

theorem attachment_congr : (w'.pipeline p).attachment = (w.pipeline p).attachment :=
  pipeline_congr (f := Pipeline.attachment) (fun _ => rfl) h p

theorem loopOf_congr : w'.loopOf p = w.loopOf p := by
  rw [loopOf, attachment_congr h, loopOf]

end Reading

end World

end Conduit
