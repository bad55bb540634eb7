import Conduit.Proofs.World.Route

/-!
# Handing On

What a codec does with what it has made, whatever that is: it leaves something in its own
container, puts something into the next one, and announces it if there is any. In between
it writes down what it has noticed and what it has to remember. That is its own affair as
long as no data is touched and nobody is linked or unlinked, which is what `Discreet` says.

The next place is looked up when the data is handed on, and everything that has happened
by then was discreet. So it is the place that was next before. It is never the codec's own,
for nobody stands past itself in its pipeline, and it is there, even if no handler is.

The announcement is an event like any other. Whoever hears it may do what it likes, to this
pipeline as well, so nothing is said of the world after it but that the event was brought to
the next handler once, when all the data was in its place.

## Main definitions

* `World.Discreet`: What touches no data, and links and unlinks nobody.
* `World.Exchanged`: Data was taken from one place, and put at the next.
* `World.brought`: An event is brought to a handler.
* `World.HandedOn`: Messages were handed on.

## Theorems

* `id_ne_of_targets`: Nobody lies ahead of itself.
* `discreet_refl`, `Discreet.comp`, `discreet_notices`, `discreet_updateContext`: What is
  discreet.
* `Hosts.lt_length`, `Hosts.has_place`: The pipeline is there, and so are its members.
* `Hosts.next_congr`: Where data goes depends on the roster alone.
* `Hosts.has_next`: The next place is there, and is another one.
* `Hosts.withdraw`, `Hosts.exchange`: Taking from one place, and putting at the next.
* `Hosts.fireFrom_brought`: An event is brought to the next handler, once.
* `Hosts.handedOn`: Messages are handed on.
-/

namespace Conduit

open Roster

namespace Roster

/-- Nobody lies ahead of itself. -/
theorem id_ne_of_targets {l ns : Roster} {m n : Member} {kind : EventKind} (hnd : (ids l).Nodup)
    (hm : m ∈ l) (hsome : l.targets (.after m.id) kind = n :: ns) : n.id ≠ m.id := by
  have hn : n ∈ l.targets (.after m.id) kind := hsome ▸ List.mem_cons_self
  rcases List.append_of_mem hm with ⟨a, b, rfl⟩
  have hafter : ahead (a ++ m :: b) (.after m.id) = b := by
    rw [ahead, dropWhile_split (not_mem_before hnd), List.tail_cons]
  rw [targets, hafter] at hn
  -- From the member on, all are different, so none of the others is it.
  have hrest : (ids (m :: b)).Nodup := by
    unfold ids at hnd ⊢
    rw [List.map_append] at hnd
    exact (List.nodup_append.mp hnd).2.1
  rw [ids_cons, List.nodup_cons] at hrest
  exact fun he => hrest.1 (he ▸ mem_ids.mpr ⟨n, (List.mem_filter.mp hn).1, rfl⟩)

end Roster

namespace World

variable {σ : Type}

/-- What touches no data, and links and unlinks nobody. -/
structure Discreet (f : World σ → World σ) : Prop where
  container : ∀ w place, (f w).container place = w.container place
  hosts : ∀ {w p l}, w.Hosts p l → (f w).Hosts p l
  ready : ∀ {w p}, w.Ready p → (f w).Ready p

/-- `left` was left where data waited for a member, `filled` is now at the next place, and no
    other place was touched. The pipeline can be worked on as before. -/
structure Exchanged (w w' : World σ) (p : PipelineId) (l : Roster) (m : Member) (side : Side)
    (left filled : Container) : Prop where
  own : w'.container (side.place m.id) = left
  next : w'.container (w.next side m.id) = filled
  elsewhere : ∀ place, place ≠ side.place m.id → place ≠ w.next side m.id →
    w'.container place = w.container place
  hosts : w'.Hosts p l
  ready : w'.Ready p

/-- An event is brought to a handler while its pipeline is held. -/
def brought [Journal σ] (w : World σ) (call : Caller σ) (p : PipelineId) (n : Member)
    (event : InboundEvent) : World σ :=
  (match call (.handler n.id (.inbound event)) (w.hold (.pipeline p)) with
    | (.ok _, w) => w
    | (.error cause, w) => onFailure call p event n.id cause w).release (.pipeline p)

/-- A member has handed messages on behind those that waited for the next handler, and has
    announced them if there are any. Before the announcement the world was `w₁`. -/
structure HandedOn [Journal σ] (w : World σ) (call : Caller σ) (p : PipelineId) (l : Roster)
    (m : Member) (left : Container) (msgs : List Message) (w₁ w' : World σ) : Prop where
  exchanged : w.Exchanged w₁ p l m .inbound left ((w.container (w.nextInbound m.id)).pushAll msgs)
  announced : w' = if msgs = [] then w₁ else w₁.fireFrom call m.id .messageUpdated
  /-- The next handler is called once, and finds them in its container. -/
  heard : msgs ≠ [] → ∀ n ns, l.targets (.after m.id) .messageUpdated = n :: ns →
    w.nextInbound m.id = .inbound n.id ∧ w' = w₁.brought call p n .messageUpdated

variable {w w' : World σ} {p : PipelineId} {l : Roster} {m n : Member} {side : Side}
  {f g : World σ → World σ}

/-! ### What is discreet -/

theorem discreet_refl : Discreet fun w : World σ => w :=
  ⟨fun _ _ => rfl, fun h => h, fun h => h⟩

theorem Discreet.comp (hg : Discreet g) (hf : Discreet f) : Discreet fun w => g (f w) where
  container w place := (hg.container _ place).trans (hf.container w place)
  hosts h := hg.hosts (hf.hosts h)
  ready h := hg.ready (hf.ready h)

theorem discreet_notices [Journal σ] (ns : List Notice) :
    Discreet fun w : World σ => ns.foldl notice w := by
  induction ns with
  | nil => exact discreet_refl
  | cons n ns ih =>
      have hnotice : Discreet fun w : World σ => w.notice n := by
        refine ⟨fun w place => ?_, fun h => h.congr rfl rfl, fun h => h.congr rfl rfl h.kept⟩
        cases place <;> rfl
      exact ih.comp hnotice

/-- What a handler remembers is its own affair. -/
theorem discreet_updateContext {f : Context → Context}
    (hf : ∀ x, ∃ role, f x = { x with handler := { x.handler with role } }) (c : ContextId) :
    Discreet fun w : World σ => w.updateContext c f where
  container := by
    intro w place
    -- The role of a handler is not a container, and nothing that hosting looks at.
    have hsame : ∀ x, (f x).inbound = x.inbound ∧ (f x).outbound = x.outbound := by
      intro x
      rcases hf x with ⟨role, hx⟩
      rw [hx]
      exact ⟨rfl, rfl⟩
    cases place with
    | inbound d => exact context_updateContext (fun x => (hsame x).1) w c d
    | outbound d => exact context_updateContext (fun x => (hsame x).2) w c d
    | tail _ | sink _ | nowhere => rfl
  hosts h := by
    refine h.updateContext (fun x => ?_) c
    rcases hf x with ⟨role, hx⟩
    rw [hx]
    exact ⟨rfl, rfl, rfl, rfl⟩
  ready h := h.congr rfl rfl h.kept

/-! ### The next place -/

/-- A pipeline with a member is there. -/
theorem Hosts.lt_length (h : w.Hosts p l) (hm : m ∈ l) : p < w.pipelines.length := by
  rcases Nat.lt_or_ge p w.pipelines.length with hp | hp
  · exact hp
  · have hchain : w.chain p = {} := by
      rw [World.chain, World.pipeline, List.getElem?_eq_none hp]
      rfl
    rcases h.holds.linked.informed m hm with ⟨k, hk, -⟩
    rw [hchain] at hk
    cases hk

/-- Data can wait for a member on either side. -/
theorem Hosts.has_place (h : w.Hosts p l) (hm : m ∈ l) (side : Side) :
    w.Has (side.place m.id) := by
  cases side with
  | inbound => exact h.known m hm
  | outbound => exact h.known m hm

/-- Where data goes past a member depends on the roster alone. -/
theorem Hosts.next_congr (h : w.Hosts p l) (hready : w.Ready p) (h' : w'.Hosts p l)
    (hready' : w'.Ready p) (hm : m ∈ l) (side : Side) :
    w'.next side m.id = w.next side m.id := by
  rw [h.next_eq hready hm, h'.next_eq hready' hm, h.target_eq, h'.target_eq]

variable (h : w.Hosts p l) (hready : w.Ready p) (hm : m ∈ l)
include h hready hm

/-- The next place is there, and is another one. -/
theorem Hosts.has_next (side : Side) :
    w.Has (w.next side m.id) ∧ w.next side m.id ≠ side.place m.id := by
  have hp := h.lt_length hm
  have hnd : (ids (side.course l)).Nodup := by
    cases side with
    | inbound => exact h.holds.linked.ids_nodup
    | outbound => exact ids_nodup_reverse.mpr h.holds.linked.ids_nodup
  have hmem : m ∈ side.course l := by
    cases side with
    | inbound => exact hm
    | outbound => exact List.mem_reverse.mpr hm
  rw [h.next_eq hready hm, h.target_eq]
  -- Either a handler past the member is next, or one end of the pipeline is.
  cases hsome : Roster.targets (side.course l) (.after m.id) side.kind with
  | nil =>
      cases side with
      | inbound => exact ⟨hp, fun he => nomatch he⟩
      | outbound => exact ⟨hp, fun he => nomatch he⟩
  | cons n ns =>
      have hn : n ∈ l := by
        have hstop := Side.mem_stops_of_targets hsome
        exact Side.mem_of_stops hstop
      exact ⟨h.has_place hn side,
        fun he => id_ne_of_targets hnd hmem hsome (side.place_injective he)⟩

/-- Something is left for a member, and something is done that is discreet. -/
theorem Hosts.withdraw (side : Side) (hf : Discreet f) (left : Container) :
    w.Exchanged (f (w.setContainer (side.place m.id) left)) p l m side left
      (w.container (w.next side m.id)) := by
  have hhas := h.has_place hm side
  refine ⟨?_, ?_, fun place hown _ => ?_, hf.hosts (h.setContainer _ _),
    hf.ready (hready.setContainer _ _)⟩
  · rw [hf.container, container_setContainer_self hhas]
  · rw [hf.container, container_setContainer_ne (h.has_next hready hm side).2]
  · rw [hf.container, container_setContainer_ne hown]

/-- Something is left for a member, something is done that is discreet, and something is put
    at the next place. -/
theorem Hosts.exchange (side : Side) (hf : Discreet f) (left filled : Container) :
    w.Exchanged ((f (w.setContainer (side.place m.id) left)).setContainer (w.next side m.id)
      filled) p l m side left filled := by
  have hwithdrawn := h.withdraw hready hm side hf left
  rcases h.has_next hready hm side with ⟨hhas, hne⟩
  -- The place is looked up afterwards, but it is the same.
  have hthere : (f (w.setContainer (side.place m.id) left)).Has (w.next side m.id) := by
    have hnext := (hwithdrawn.hosts.has_next hwithdrawn.ready hm side).1
    rwa [h.next_congr hready hwithdrawn.hosts hwithdrawn.ready hm] at hnext
  refine ⟨?_, container_setContainer_self hthere filled, fun place hown hnext => ?_,
    hwithdrawn.hosts.setContainer _ _, hwithdrawn.ready.setContainer _ _⟩
  · rw [container_setContainer_ne hne.symm, hwithdrawn.own]
  · rw [container_setContainer_ne hnext, hwithdrawn.elsewhere place hown hnext]

variable [Journal σ]

/-- An event from a member on is brought to the next handler, once. -/
theorem Hosts.fireFrom_brought (call : Caller σ) {event : InboundEvent} {ns : Roster}
    (hsome : l.targets (.after m.id) event.kind = n :: ns) :
    w.fireFrom call m.id event = w.brought call p n event := by
  have hheld : (w.hold (.pipeline p)).Hosts p l := h.congr rfl rfl
  rw [h.fireFrom_eq hready hm, fireNow_eq, hheld.dispatch_some hsome]
  rfl

/-- Messages are handed on behind those that waited for the next handler. -/
theorem Hosts.handedOn (call : Caller σ) (hf : Discreet f) (left : Container)
    (msgs : List Message) :
    ∃ w₁, w.HandedOn call p l m left msgs w₁
      ((f (w.setContainer (.inbound m.id) left)).handOn call m.id msgs) := by
  have hwithdrawn := h.withdraw hready hm .inbound hf left
  cases msgs with
  | nil =>
      -- Nothing is announced, and what waits at the next place is what waited there.
      refine ⟨_, ?_, rfl, fun hne => absurd rfl hne⟩
      have hsame : (w.container (w.nextInbound m.id)).pushAll [] =
          w.container (w.next .inbound m.id) := by
        unfold Container.pushAll
        rw [List.append_nil]
        rfl
      rw [hsame]
      exact hwithdrawn
  | cons msg msgs =>
      have hexchanged := h.exchange hready hm .inbound hf left
        ((w.container (w.nextInbound m.id)).pushAll (msg :: msgs))
      have hnext := h.next_congr hready hwithdrawn.hosts hwithdrawn.ready hm .inbound
      -- The next place has not changed, and nor has what is there.
      have hfire : (f (w.setContainer (.inbound m.id) left)).handOn call m.id (msg :: msgs) =
          ((f (w.setContainer (.inbound m.id) left)).setContainer (w.next .inbound m.id)
            ((w.container (w.nextInbound m.id)).pushAll (msg :: msgs))).fireFrom call m.id
              .messageUpdated := by
        have hthere := hwithdrawn.next
        change (f (w.setContainer (.inbound m.id) left)).nextInbound m.id = _ at hnext
        change (World.updateContainer _ _ _).fireFrom _ _ _ = _
        rw [updateContainer, hnext]
        change (f (w.setContainer (.inbound m.id) left)).container _ = _ at hthere
        rw [hthere]
        rfl
      refine ⟨_, hexchanged, ?_, fun _ n ns hsome => ⟨h.nextInbound_some hready hm hsome, ?_⟩⟩
      · rw [if_neg (List.cons_ne_nil msg msgs)]
        exact hfire
      · rw [hfire]
        exact hexchanged.hosts.fireFrom_brought hexchanged.ready hm call hsome

end World

end Conduit
