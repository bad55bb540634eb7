import Conduit.Proofs.World.Housing

/-!
# Places

The containers of a world, each at its place. Two places never share a container, so
to put one somewhere changes nothing anywhere else, and it is found there if the place
is one that the world has.

## Main definitions

* `World.Has`: A place that there is.

## Theorems

* `pipeline_updatePipeline_self`, `pipeline_updatePipeline_ne`: A pipeline that is updated.
* `Has.setContainer`, `container_setContainer_self`, `container_setContainer_ne`: What is
  found where.
* `setContainer_setContainer`: What is put there last counts.
* `handler_setContainer`, `sinkOf_setContainer`, `transport_setContainer`: What does not
  depend on it.
* `container_updateActivation`: What is not at any place.
* `length_of_sink`: A pipeline with a transport is there.
* `map_setContainer_of_notMem`, `map_moveAll`, `map_moveAll_of_notMem`: A move between two
  places of a row.
-/

namespace Conduit.World

variable {σ : Type} {w : World σ} {p : PipelineId} {place other : Place}

/-- The context or the pipeline of a place is there. -/
def Has (w : World σ) : Place → Prop
  | .inbound c | .outbound c => c < w.contexts.length
  | .tail p | .sink p => p < w.pipelines.length
  | .nowhere => False

theorem pipeline_updatePipeline_self (hp : p < w.pipelines.length) (f : Pipeline → Pipeline) :
    (w.updatePipeline p f).pipeline p = f (w.pipeline p) := by
  rw [pipeline, updatePipeline, List.getElem?_modify_eq, pipeline, List.getElem?_eq_getElem hp]
  rfl

theorem pipeline_updatePipeline_ne {q : PipelineId} (hne : p ≠ q) (f : Pipeline → Pipeline) :
    (w.updatePipeline p f).pipeline q = w.pipeline q := by
  change ((w.pipelines.modify p f)[q]?).getD default = _
  rw [List.getElem?_modify_ne _ _ hne, pipeline]

/-- The places that there are do not depend on what is there. -/
theorem Has.setContainer (h : w.Has other) (place : Place) (x : Container) :
    (w.setContainer place x).Has other := by
  have hbare := bare_setContainer w place x
  have hcontexts := congrArg (fun w => w.contexts.length) hbare
  have hpipelines := congrArg (fun w => w.pipelines.length) hbare
  simp only [bare, List.length_map] at hcontexts hpipelines
  cases other with
  | inbound c | outbound c => exact Nat.lt_of_lt_of_eq h hcontexts.symm
  | tail p | sink p => exact Nat.lt_of_lt_of_eq h hpipelines.symm
  | nowhere => exact h

theorem container_setContainer_self (h : w.Has place) (x : Container) :
    (w.setContainer place x).container place = x := by
  cases place with
  | inbound c => exact congrArg Context.inbound (context_updateContext_self h _)
  | outbound c => exact congrArg Context.outbound (context_updateContext_self h _)
  | tail p => exact congrArg Pipeline.tailBuffer (pipeline_updatePipeline_self h _)
  | sink p => exact congrArg Pipeline.sinkBuffer (pipeline_updatePipeline_self h _)
  | nowhere => exact absurd h id

theorem container_setContainer_ne (hne : other ≠ place) (x : Container) :
    (w.setContainer place x).container other = w.container other := by
  cases place with
  | nowhere => rfl
  | inbound c =>
      cases other with
      | inbound d =>
          -- Places of one kind differ in whose they are, places of two kinds are other fields.
          have hcd : c ≠ d := fun he => hne (congrArg Place.inbound he.symm)
          exact congrArg Context.inbound (context_updateContext_ne hcd _)
      | outbound d =>
          exact context_updateContext (f := fun y => { y with inbound := x })
            (g := Context.outbound) (fun _ => rfl) w c d
      | tail q | sink q | nowhere => rfl
  | outbound c =>
      cases other with
      | inbound d =>
          exact context_updateContext (f := fun y => { y with outbound := x })
            (g := Context.inbound) (fun _ => rfl) w c d
      | outbound d =>
          have hcd : c ≠ d := fun he => hne (congrArg Place.outbound he.symm)
          exact congrArg Context.outbound (context_updateContext_ne hcd _)
      | tail q | sink q | nowhere => rfl
  | tail p =>
      cases other with
      | inbound d | outbound d | nowhere => rfl
      | tail q =>
          have hpq : p ≠ q := fun he => hne (congrArg Place.tail he.symm)
          exact congrArg Pipeline.tailBuffer (pipeline_updatePipeline_ne hpq _)
      | sink q =>
          exact pipeline_updatePipeline (f := fun y => { y with tailBuffer := x })
            (g := Pipeline.sinkBuffer) (fun _ => rfl) w p q
  | sink p =>
      cases other with
      | inbound d | outbound d | nowhere => rfl
      | tail q =>
          exact pipeline_updatePipeline (f := fun y => { y with sinkBuffer := x })
            (g := Pipeline.tailBuffer) (fun _ => rfl) w p q
      | sink q =>
          have hpq : p ≠ q := fun he => hne (congrArg Place.sink he.symm)
          exact congrArg Pipeline.sinkBuffer (pipeline_updatePipeline_ne hpq _)

/-- What was put at a place before does not matter. -/
theorem setContainer_setContainer (w : World σ) (place : Place) (x y : Container) :
    (w.setContainer place x).setContainer place y = w.setContainer place y := by
  cases place with
  | inbound c | outbound c =>
      change { w with contexts := (w.contexts.modify c _).modify c _ } = _
      rw [List.modify_modify_eq]
      rfl
  | tail p | sink p =>
      change { w with pipelines := (w.pipelines.modify p _).modify p _ } = _
      rw [List.modify_modify_eq]
      rfl
  | nowhere => rfl

theorem handler_setContainer (w : World σ) (place : Place) (x : Container) (c : ContextId) :
    ((w.setContainer place x).context c).handler = (w.context c).handler :=
  context_congr (f := Context.handler) (fun _ => rfl)
    (congrArg World.contexts (bare_setContainer w place x)) c

theorem sinkOf_setContainer (w : World σ) (place : Place) (x : Container) (p : PipelineId) :
    (w.setContainer place x).sinkOf p = w.sinkOf p := by
  have hbare := congrArg World.pipelines (bare_setContainer w place x)
  rw [sinkOf, attachment_congr hbare, sinkOf]

/-- A pipeline with a transport is there. -/
theorem length_of_sink {t : TransportId} (h : w.sinkOf p = .embedded t) :
    p < w.pipelines.length := by
  rcases Nat.lt_or_ge p w.pipelines.length with hp | hp
  · exact hp
  · have hnone : w.sinkOf p = .discarding := by
      rw [sinkOf, pipeline, List.getElem?_eq_none hp]
      rfl
    cases h.symm.trans hnone

/-- Transports are not at any place. -/
theorem transport_setContainer (w : World σ) (place : Place) (x : Container) (t : TransportId) :
    (w.setContainer place x).transport t = w.transport t := by
  cases place <;> rfl

theorem container_updateActivation (w : World σ) (p : PipelineId) (f : Activation → Activation)
    (place : Place) : (w.updateActivation p f).container place = w.container place := by
  cases place with
  | inbound c | outbound c | nowhere => rfl
  | tail q =>
      exact pipeline_updatePipeline (f := fun y => { y with activation := f y.activation })
        (g := Pipeline.tailBuffer) (fun _ => rfl) w p q
  | sink q =>
      exact pipeline_updatePipeline (f := fun y => { y with activation := f y.activation })
        (g := Pipeline.sinkBuffer) (fun _ => rfl) w p q

/-! ### Moving everything -/

section Moving

variable {a b : Place}

/-- What is elsewhere does not move. -/
theorem map_setContainer_of_notMem {places : List Place} (h : place ∉ places) (x : Container) :
    places.map (w.setContainer place x).container = places.map w.container :=
  List.map_congr_left fun other hother =>
    container_setContainer_ne (fun he : other = place => h (he ▸ hother)) x

/-- A move between two places of a row that are next to each other. -/
theorem map_moveAll {xs ys : List Place} (hnd : (xs ++ b :: a :: ys).Nodup) (hb : w.Has b)
    (ha : w.Has a) :
    (xs ++ b :: a :: ys).map (w.moveAll a b).container =
      xs.map w.container ++ ((w.container a).transferTo (w.container b)).2 ::
        ((w.container a).transferTo (w.container b)).1 :: ys.map w.container := by
  obtain ⟨left, filled, htransfer⟩ : ∃ left filled,
      (w.container a).transferTo (w.container b) = (left, filled) := ⟨_, _, rfl⟩
  have hmove : w.moveAll a b = (w.setContainer a left).setContainer b filled := by
    rw [moveAll, htransfer]
  -- The two places are not the same, and neither is elsewhere in the row.
  rcases List.nodup_cons.mp (List.perm_middle.nodup_iff.mp hnd) with ⟨hbout, hnd⟩
  rcases List.nodup_cons.mp (List.perm_middle.nodup_iff.mp hnd) with ⟨haout, -⟩
  simp only [List.mem_append, List.mem_cons, not_or] at hbout haout
  have hab : a ≠ b := fun he => hbout.2.1 he.symm
  have hpart : ∀ places : List Place, a ∉ places → b ∉ places →
      places.map ((w.setContainer a left).setContainer b filled).container =
        places.map w.container := by
    intro places ha hb
    rw [map_setContainer_of_notMem hb, map_setContainer_of_notMem ha]
  have hplace : (w.setContainer a left).Has b := hb.setContainer a left
  rw [hmove, htransfer, List.map_append, List.map_cons, List.map_cons,
    hpart xs haout.1 hbout.1, hpart ys haout.2 hbout.2.2,
    container_setContainer_self hplace, container_setContainer_ne hab,
    container_setContainer_self ha]

/-- What a move does not concern stays where it is. -/
theorem map_moveAll_of_notMem {places : List Place} (ha : a ∉ places) (hb : b ∉ places) :
    places.map (w.moveAll a b).container = places.map w.container := by
  rw [moveAll, map_setContainer_of_notMem hb, map_setContainer_of_notMem ha]

end Moving

end Conduit.World
