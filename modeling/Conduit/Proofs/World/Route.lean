import Conduit.Proofs.Buffer.Carry
import Conduit.Proofs.World.Places

/-!
# The Way of Data

Data that travels through a pipeline stops at every context that handles the events
which it travels with, and waits there in a container. The places where it can wait
form a route, and the transport keeps what has come to the end of it. Nothing joins
a route but at the end where it is entered. So what the transport keeps, followed by
what waits along the route from its end back to where it is entered, is all that has
ever been put in, in the order in which that was done.

Only the events say when data moves on, and the handlers decide about those. But there
are few ways in which it can move. It goes from one place to the next, or from the last
one to the transport, and either way the row of containers carries what it carried.
`Conveying` says that the row does, and that nothing that matters for the way has changed.
The two sides of a pipeline are different ways of the same kind, and are treated as one.

## Main definitions

* `Side.stops`, `Side.route`: Where data of a side stops.
* `World.row`: The containers of a side.
* `World.rigging`: What data is moved by.
* `World.Rigged`: A pipeline between the two ends of a transport.
* `World.Conveying`: What is in the pipeline and the transport.

## Theorems

* `Side.mem_of_stops`, `Side.place_injective`, `Side.mem_route`, `Side.mem_stops_of_targets`,
  `Side.place_mem_route`, `Side.tail_notMem_route`, `Side.side_of_route`: The places of a
  route.
* `filter_handles_split`: Those that handle a kind, around one of them.
* `Transport.kept_keep`, `Transport.kept_keep_ne`: What a transport keeps.
* `container_place`, `Hosts.target_eq`, `Hosts.next_eq`: Where data goes.
* `rigging_of_bare`, `rigging_updateTransport`, `Rigged.of_rigging`, `Rigged.mem`: What data is
  moved by.
* `Rigged.stops_inbound`, `Rigged.route_gate`, `Rigged.route_onward`, `Rigged.route_entry`,
  `Rigged.has`, `Rigged.route_nodup`: How a route is laid.
* `Conveyed.trans`, `Conveyed.activation`: Conveying data.
* `container_updateTransport`, `container_setContainer_same`, `Conveying.same`,
  `Conveying.refl`, `Conveying.setUser`, `Conveying.notice`, `Conveying.mark`,
  `Conveying.settled`, `Conveying.newPromise`, `Conveying.hold`, `Conveyed.release`,
  `Conveying.setTail`, `Conveying.updateTransport`, `Conveying.discard`: What has no part in
  it.
* `transport_moveAll`, `Conveying.moveAll`, `Conveying.forward`: Data moves on.
* `Conveying.deliver`: Data comes to the transport.
* `Conveying.add`: Data comes in.
-/

namespace Conduit

open Roster

/-! ### Routes -/

/-- The side that a place is on. -/
def Place.side : Place → Side
  | .inbound _ | .tail _ | .nowhere => .inbound
  | .outbound _ | .sink _ => .outbound

namespace Side

/-- A roster in the direction of travel. -/
def course : Side → Roster → Roster
  | inbound, l => l
  | outbound, l => l.reverse

/-- The kind of the events that data travels with. -/
def kind : Side → EventKind
  | inbound => .messageUpdated
  | outbound => .flush

/-- Where data waits for a handler. -/
def place : Side → ContextId → Place
  | inbound, c => .inbound c
  | outbound, c => .outbound c

/-- What waits there for the handler of a context. -/
def waiting : Side → Context → Container
  | inbound, x => x.inbound
  | outbound, x => x.outbound

/-- Where data comes to past the last handler. -/
def beyond : Side → PipelineId → Place
  | inbound, p => .tail p
  | outbound, p => .sink p

/-- The members that data comes to, in this order. -/
def stops (side : Side) (l : Roster) : Roster :=
  (side.course l).filter (·.events.handles side.kind)

/-- The places where data waits for the transport itself. At the tail none does. -/
def exit : Side → PipelineId → List Place
  | inbound, _ => []
  | outbound, p => [.sink p]

/-- The places that data comes to, the last one first. -/
def route (side : Side) (p : PipelineId) (l : Roster) : List Place :=
  side.exit p ++ ((side.stops l).map fun m => side.place m.id).reverse

/-- The place from which a transport takes the data, if `x` collects for it. -/
def gate : Side → PipelineId → Member → Place
  | inbound, _, x => .inbound x.id
  | outbound, p, _ => .sink p

variable {side : Side} {p : PipelineId} {l : Roster} {m : Member}

theorem mem_of_stops (hm : m ∈ side.stops l) : m ∈ l := by
  have hcourse := (List.mem_filter.mp hm).1
  cases side with
  | inbound => exact hcourse
  | outbound => exact List.mem_reverse.mp hcourse

theorem place_injective (side : Side) : Function.Injective side.place := by
  cases side with
  | inbound => exact fun _ _ he => Place.inbound.inj he
  | outbound => exact fun _ _ he => Place.outbound.inj he

/-- The places of a route are those of its members, or where the sink takes from. -/
theorem mem_route {place : Place} (h : place ∈ side.route p l) :
    place ∈ side.exit p ∨ ∃ m ∈ side.stops l, side.place m.id = place := by
  rcases List.mem_append.mp h with h | h
  · exact Or.inl h
  · exact Or.inr (List.mem_map.mp (List.mem_reverse.mp h))

/-- Whatever an event that data travels with is brought to is a stop of the data. -/
theorem mem_stops_of_targets {ms : Roster} {cursor : Cursor}
    (hsome : Roster.targets (side.course l) cursor side.kind = m :: ms) : m ∈ side.stops l := by
  have hmem : m ∈ Roster.targets (side.course l) cursor side.kind := hsome ▸ List.mem_cons_self
  rcases List.mem_filter.mp hmem with ⟨hahead, hh⟩
  exact List.mem_filter.mpr ⟨(ahead_suffix (side.course l) cursor).mem hahead, hh⟩

theorem place_mem_route (hm : m ∈ side.stops l) : side.place m.id ∈ side.route p l :=
  List.mem_append_right _
    (List.mem_reverse.mpr (List.mem_map_of_mem (f := fun m => side.place m.id) hm))

theorem tail_notMem_route (side : Side) (p : PipelineId) (l : Roster) :
    Place.tail p ∉ side.route p l := by
  intro h
  rcases mem_route h with h | ⟨m, -, hm⟩
  · cases side with
    | inbound => exact absurd h List.not_mem_nil
    | outbound => cases List.mem_singleton.mp h
  · cases side <;> cases hm

/-- No place is on the routes of both sides. -/
theorem side_of_route {place : Place} (h : place ∈ side.route p l) : place.side = side := by
  rcases mem_route h with h | ⟨m, -, rfl⟩
  · cases side with
    | inbound => exact absurd h List.not_mem_nil
    | outbound => rw [List.mem_singleton.mp h]; rfl
  · cases side <;> rfl

end Side

namespace Roster

/-- Those that handle a kind, around one of them. -/
theorem filter_handles_split {l : Roster} {m : Member} {kind : EventKind} (hnd : (ids l).Nodup)
    (hm : m ∈ l.filter (·.events.handles kind)) :
    ∃ before, l.filter (·.events.handles kind) = before ++ m :: l.targets (.after m.id) kind := by
  rcases List.mem_filter.mp hm with ⟨hmem, hh⟩
  rcases List.append_of_mem hmem with ⟨a, b, rfl⟩
  have hafter : ahead (a ++ m :: b) (.after m.id) = b := by
    rw [ahead, dropWhile_split (not_mem_before hnd), List.tail_cons]
  refine ⟨a.filter (·.events.handles kind), ?_⟩
  rw [List.filter_append, List.filter_cons, if_pos hh, targets, hafter]

end Roster

/-- A handler is up to the user, or does nothing but what every handler does by default. -/
def Handler.IsPlain (handler : Handler) : Prop :=
  handler.role = .passive ∨ ∃ tag, handler.role = .custom tag

theorem Transport.kept_keep (x : Transport) {side : Side} (c : Container) :
    (x.keep side c).kept side = c := by
  cases side <;> rfl

theorem Transport.kept_keep_ne (x : Transport) {side : Side} (c : Container) {other : Side}
    (hne : other ≠ side) : (x.keep side c).kept other = x.kept other := by
  cases side <;> cases other <;> first | rfl | exact absurd rfl hne

namespace World

variable {σ : Type} {w w' w'' : World σ} {p : PipelineId} {l : Roster} {x m : Member}
  {t : TransportId} {side : Side} {load : Side → Load}

/-- Where data goes that an event from a cursor on would find. -/
def target (w : World σ) (p : PipelineId) : Side → Cursor → Place
  | .inbound, cursor => w.inboundTarget p cursor
  | .outbound, cursor => w.outboundTarget p cursor

/-- Where data goes past a context. -/
def next (w : World σ) : Side → ContextId → Place
  | .inbound, c => w.nextInbound c
  | .outbound, c => w.nextOutbound c

/-- Moves everything that waits for a context to the next place. -/
def forward (w : World σ) : Side → ContextId → World σ
  | .inbound, c => w.forwardInbound c
  | .outbound, c => w.forwardOutbound c

/-- What a transport keeps, and what waits for it, the last place first. -/
def row (w : World σ) (p : PipelineId) (l : Roster) (t : TransportId) (side : Side) :
    List Container :=
  (w.transport t).kept side :: (side.route p l).map w.container

theorem container_place (w : World σ) (side : Side) (c : ContextId) :
    w.container (side.place c) = side.waiting (w.context c) := by
  cases side <;> rfl

theorem Hosts.target_eq (h : w.Hosts p l) (side : Side) (cursor : Cursor) :
    w.target p side cursor =
      (Roster.targets (side.course l) cursor side.kind).head?.elim (side.beyond p)
        fun m => side.place m.id := by
  cases side with
  | inbound =>
      rw [target, inboundTarget, h.findInbound (by decide)]
      change _ = (l.targets cursor .messageUpdated).head?.elim _ _
      cases l.targets cursor .messageUpdated <;> rfl
  | outbound =>
      rw [target, outboundTarget, h.findOutbound (by decide)]
      change _ = (Roster.targets l.reverse cursor .flush).head?.elim _ _
      cases Roster.targets l.reverse cursor .flush <;> rfl

theorem Hosts.next_eq (h : w.Hosts p l) (hready : w.Ready p) (hm : m ∈ l) (side : Side) :
    w.next side m.id = w.target p side (.after m.id) := by
  cases side with
  | inbound => rw [next, nextInbound, if_pos (h.hasPipeline_eq hready hm), h.pipeline m hm]; rfl
  | outbound => rw [next, nextOutbound, if_pos (h.hasPipeline_eq hready hm), h.pipeline m hm]; rfl

/-! ### What data is moved by -/

/-- A world without data, promises, annals and what the user keeps. Of the transports only the
    number is left. -/
def rigging (w : World σ) : World Unit :=
  { w.bare with
    transports := w.bare.transports.map fun _ => {}
    promises := []
    annals := []
    user := () }

/-- A pipeline between the two ends of a transport. Its last handler collects for the
    transport, and all others are plain. -/
structure Rigged (w : World σ) (p : PipelineId) (l : Roster) (x : Member) (t : TransportId) :
    Prop where
  hosts : w.Hosts p l
  ready : w.Ready p
  last : ∃ front, l = front ++ [x]
  plain : ∀ m ∈ l, m ≠ x → (w.context m.id).handler.IsPlain
  collector : (w.context x.id).handler = .collector t
  sink : w.sinkOf p = .embedded t
  wired : t < w.transports.length

theorem rigging_of_bare (h : w'.bare = w.bare) : w'.rigging = w.rigging := by
  rw [rigging, h, rigging]

theorem rigging_updateTransport (w : World σ) (t : TransportId) (f : Transport → Transport) :
    (w.updateTransport t f).rigging = w.rigging := by
  have hnumber : ((w.transports.modify t f).map Transport.bare).map (fun _ => ({} : Transport)) =
      (w.transports.map Transport.bare).map fun _ => {} := by
    rw [List.map_map, List.map_map]
    exact map_modify_of_same (f := f) (fun _ => rfl) w.transports t
  rw [rigging, bare, updateTransport, hnumber]
  rfl

theorem Rigged.of_rigging (h : w.Rigged p l x t) (hrig : w'.rigging = w.rigging) :
    w'.Rigged p l x t := by
  have hpipe : w'.pipelines.map Pipeline.bare = w.pipelines.map Pipeline.bare :=
    congrArg World.pipelines hrig
  have hctx : w'.contexts.map Context.bare = w.contexts.map Context.bare :=
    congrArg World.contexts hrig
  have hthread : w'.inQueueThread = w.inQueueThread := (congrArg World.inQueueThread hrig :)
  have hkept : w'.isKept p = w.isKept p := (congrArg (fun w => w.isKept p) hrig :)
  have hlen := congrArg (fun w => w.transports.length) hrig
  simp only [rigging, bare, List.length_map] at hlen
  exact {
    hosts := h.hosts.congr (chain_congr hpipe p) hctx
    ready := h.ready.congr (loopOf_congr hpipe p) hthread (hkept.trans h.ready.kept)
    last := h.last
    plain := fun m hm hx => by
      rw [context_congr (f := Context.handler) (fun _ => rfl) hctx m.id]
      exact h.plain m hm hx
    collector :=
      (context_congr (f := Context.handler) (fun _ => rfl) hctx x.id).trans h.collector
    sink := by
      rw [sinkOf, attachment_congr hpipe]
      exact h.sink
    wired := hlen ▸ h.wired }

theorem Rigged.mem (h : w.Rigged p l x t) : x ∈ l := by
  rcases h.last with ⟨front, rfl⟩
  exact List.mem_append_right front List.mem_cons_self

/-! ### How a route is laid -/

/-- Data stops at the collector last. -/
theorem Rigged.stops_inbound (h : w.Rigged p l x t) :
    ∃ front, Side.inbound.stops l = front ++ [x] := by
  have hx : x.events.handles .messageUpdated = true :=
    h.hosts.handles_collector h.mem h.collector .messageUpdated
  rcases h.last with ⟨front, hl⟩
  refine ⟨front.filter (·.events.handles .messageUpdated), ?_⟩
  rw [Side.stops, Side.course, hl, List.filter_append, Side.kind, List.filter_cons, if_pos hx]
  rfl

/-- The transport takes what waits at the last place. -/
theorem Rigged.route_gate (h : w.Rigged p l x t) (side : Side) :
    ∃ rest, side.route p l = side.gate p x :: rest := by
  cases side with
  | inbound =>
      rcases h.stops_inbound with ⟨front, hstops⟩
      refine ⟨(front.map fun m => Side.inbound.place m.id).reverse, ?_⟩
      rw [Side.route, hstops, List.map_append, List.reverse_append]
      rfl
  | outbound => exact ⟨_, rfl⟩

/-- Data goes on from a member to the place that stands before its own. -/
theorem Rigged.route_onward (h : w.Rigged p l x t) (hm : m ∈ side.stops l)
    (hx : side = .inbound → m ≠ x) :
    ∃ xs ys, side.route p l = xs ++ w.next side m.id :: side.place m.id :: ys := by
  have hnd : (ids (side.course l)).Nodup := by
    cases side with
    | inbound => exact h.hosts.holds.linked.ids_nodup
    | outbound => exact ids_nodup_reverse.mpr h.hosts.holds.linked.ids_nodup
  -- The next stop is the first one behind the member that handles the event, or there is none.
  rcases filter_handles_split hnd hm with ⟨before, hsplit⟩
  rw [h.hosts.next_eq h.ready (Side.mem_of_stops hm), h.hosts.target_eq]
  obtain ⟨after, hafter⟩ : ∃ after, after =
    Roster.targets (side.course l) (.after m.id) side.kind := ⟨_, rfl⟩
  have hstops : side.stops l = before ++ m :: after := hafter ▸ hsplit
  rw [← hafter, Side.route, hstops]
  cases after with
  | cons a as =>
      refine ⟨side.exit p ++ (as.map fun m => side.place m.id).reverse,
        (before.map fun m => side.place m.id).reverse, ?_⟩
      simp only [List.map_append, List.map_cons, List.reverse_append, List.reverse_cons,
        List.append_assoc]
      rfl
  | nil =>
      cases side with
      | inbound =>
          -- The last member is the collector, and nothing goes on from there.
          rcases h.stops_inbound with ⟨front, hlast⟩
          rw [hlast] at hstops
          exact absurd (List.cons.inj (List.append_inj_right' hstops rfl)).1.symm (hx rfl)
      | outbound =>
          refine ⟨[], (before.map fun m => Side.outbound.place m.id).reverse, ?_⟩
          rw [List.map_append, List.reverse_append]
          rfl

/-- Data comes in at the other end. -/
theorem Rigged.route_entry (h : w.Rigged p l x t) (side : Side) :
    ∃ xs, side.route p l = xs ++ [w.target p side .start] := by
  rw [h.hosts.target_eq]
  change ∃ xs, side.route p l = xs ++ [(side.stops l).head?.elim _ _]
  cases hstops : side.stops l with
  | cons m ms =>
      refine ⟨side.exit p ++ (ms.map fun m => side.place m.id).reverse, ?_⟩
      rw [Side.route, hstops, List.map_cons, List.reverse_cons, List.append_assoc]
      rfl
  | nil =>
      cases side with
      | inbound =>
          rcases h.stops_inbound with ⟨front, hlast⟩
          rw [hlast] at hstops
          exact absurd hstops (List.append_ne_nil_of_right_ne_nil front (List.cons_ne_nil x []))
      | outbound =>
          refine ⟨[], ?_⟩
          rw [Side.route, hstops]
          rfl

theorem Rigged.has (h : w.Rigged p l x t) {place : Place} (hp : place ∈ side.route p l) :
    w.Has place := by
  rcases Side.mem_route hp with hp | ⟨m, hm, rfl⟩
  · cases side with
    | inbound => exact absurd hp List.not_mem_nil
    | outbound =>
        rw [List.mem_singleton.mp hp]
        exact length_of_sink h.sink
  · have hknown := h.hosts.known m (Side.mem_of_stops hm)
    cases side <;> exact hknown

theorem Rigged.route_nodup (h : w.Rigged p l x t) (side : Side) : (side.route p l).Nodup := by
  have hids : (ids (side.course l)).Nodup := by
    cases side with
    | inbound => exact h.hosts.holds.linked.ids_nodup
    | outbound => exact ids_nodup_reverse.mpr h.hosts.holds.linked.ids_nodup
  -- Stops differ in their numbers, and a place tells the number.
  have hplaces : ((side.stops l).map fun m => side.place m.id).Nodup := by
    have hstops : ((side.stops l).map (·.id)).Nodup := hids.sublist (List.filter_sublist.map _)
    have hmapped : (((side.stops l).map (·.id)).map side.place).Nodup :=
      List.Pairwise.map side.place (fun _ _ hab he => hab (side.place_injective he)) hstops
    rwa [List.map_map] at hmapped
  have hreverse := (List.reverse_perm _).nodup_iff.mpr hplaces
  cases side with
  | inbound => exact hreverse
  | outbound =>
      refine List.nodup_cons.mpr ⟨fun hsink => ?_, hreverse⟩
      rcases List.mem_map.mp (List.mem_reverse.mp hsink) with ⟨m, -, hm⟩
      cases hm

/-! ### Conveying data -/

/-- A pipeline between the two ends of a transport, where the row of each side carries a
    load. -/
structure Conveying (w : World σ) (p : PipelineId) (l : Roster) (x : Member) (t : TransportId)
    (load : Side → Load) : Prop where
  rigged : w.Rigged p l x t
  carry : ∀ side, Container.Carry (w.row p l t side) (load side)
  room : ∀ side, (load side).bytes.length ≤ Capacity.defaultMax

/-- Nothing has changed that data is moved by, and the rows now carry a load. -/
structure Conveyed (w w' : World σ) (p : PipelineId) (l : Roster) (x : Member) (t : TransportId)
    (load : Side → Load) : Prop where
  rigging : w'.rigging = w.rigging
  conveying : w'.Conveying p l x t load

theorem Conveyed.trans {load' : Side → Load} (h : w.Conveyed w' p l x t load)
    (h' : w'.Conveyed w'' p l x t load') : w.Conveyed w'' p l x t load' :=
  ⟨h'.rigging.trans h.rigging, h'.conveying⟩

/-- Nor has anything changed in how far the channel has come to life. -/
theorem Conveyed.activation (h : w.Conveyed w' p l x t load) :
    (w'.pipeline p).activation = (w.pipeline p).activation :=
  pipeline_congr (f := Pipeline.activation) (fun _ => rfl) (congrArg World.pipelines h.rigging) p

/-! ### What has no part in it -/

/-- Transports are not at any place, so no place has anything to do with them. -/
theorem container_updateTransport (w : World σ) (t : TransportId) (f : Transport → Transport) :
    (w.updateTransport t f).container = w.container := by
  funext place
  cases place <;> rfl

/-- To put back what is there changes nothing. -/
theorem container_setContainer_same {place : Place} (h : w.Has place) :
    (w.setContainer place (w.container place)).container = w.container := by
  funext other
  by_cases hother : other = place
  · rw [hother, container_setContainer_self h]
  · exact container_setContainer_ne hother _

theorem Conveying.same (h : w.Conveying p l x t load) (hrig : w'.rigging = w.rigging)
    (hrow : ∀ side, w'.row p l t side = w.row p l t side) : w.Conveyed w' p l x t load :=
  ⟨hrig, h.rigged.of_rigging hrig, fun side => hrow side ▸ h.carry side, h.room⟩

theorem Conveying.refl (h : w.Conveying p l x t load) : w.Conveyed w p l x t load :=
  h.same rfl fun _ => rfl

theorem Conveying.setUser (h : w.Conveying p l x t load) (user : σ) :
    w.Conveyed (w.setUser user) p l x t load :=
  h.same rfl fun _ => rfl

theorem Conveying.notice [Journal σ] (h : w.Conveying p l x t load) (n : Notice) :
    w.Conveyed (w.notice n) p l x t load :=
  h.same rfl fun _ => rfl

theorem Conveying.mark (h : w.Conveying p l x t load) (q : PipelineId) (m : Mark) :
    w.Conveyed (w.mark q m) p l x t load :=
  h.same rfl fun _ => rfl

theorem Conveying.settled (h : w.Conveying p l x t load) (f : PromiseId) (outcome : Outcome) :
    w.Conveyed (w.settled f outcome) p l x t load :=
  h.same rfl fun _ => rfl

theorem Conveying.newPromise (h : w.Conveying p l x t load) :
    w.Conveyed w.newPromise.2 p l x t load :=
  h.same rfl fun _ => rfl

theorem Conveying.hold (h : w.Conveying p l x t load) :
    (w.hold (.pipeline p)).Conveying p l x t load where
  rigged := {
    hosts := h.rigged.hosts.congr rfl rfl
    ready := h.rigged.ready.congr rfl rfl (isKept_hold w p)
    last := h.rigged.last
    plain := h.rigged.plain
    collector := h.rigged.collector
    sink := h.rigged.sink
    wired := h.rigged.wired }
  carry := h.carry
  room := h.room

/-- What was held in the meantime does not matter. -/
theorem Conveyed.release (h : w.Rigged p l x t)
    (hheld : (w.hold (.pipeline p)).Conveyed w' p l x t load) :
    w.Conveyed (w'.release (.pipeline p)) p l x t load := by
  have hrig : (w'.release (.pipeline p)).rigging = w.rigging := by
    have hinner := hheld.rigging
    change w'.rigging.release (.pipeline p) = w.rigging
    rw [hinner]
    exact release_hold w.rigging _
  exact ⟨hrig, h.of_rigging hrig, hheld.conveying.carry, hheld.conveying.room⟩

/-- Nothing on the way is at the tail. -/
theorem Conveying.setTail (h : w.Conveying p l x t load) (c : Container) :
    w.Conveyed (w.setContainer (.tail p) c) p l x t load := by
  refine h.same (rigging_of_bare (bare_setContainer w _ c)) fun side => ?_
  rw [row, transport_setContainer, map_setContainer_of_notMem (Side.tail_notMem_route side p l)]
  rfl

/-- Nor does it matter what else a transport keeps. -/
theorem Conveying.updateTransport (h : w.Conveying p l x t load) {f : Transport → Transport}
    (hf : ∀ y side, (f y).kept side = y.kept side) :
    w.Conveyed (w.updateTransport t f) p l x t load := by
  refine h.same (rigging_updateTransport w t f) fun side => ?_
  rw [row, transport_updateTransport h.rigged.wired, hf, container_updateTransport]
  rfl

/-- Of what waits on the way nothing has been read, so there is nothing to discard. -/
theorem Conveying.discard (h : w.Conveying p l x t load) {place : Place}
    (hplace : place ∈ side.route p l) :
    w.Conveyed (w.updateContainer place (·.discardReadBytes)) p l x t load := by
  refine h.same (rigging_of_bare (bare_updateContainer w place _)) fun other => ?_
  have hheld := (h.carry side).held (w.container place)
    (List.mem_cons_of_mem _ (List.mem_map_of_mem hplace))
  rw [updateContainer, hheld.discardReadBytes, row, transport_setContainer,
    container_setContainer_same (h.rigged.has hplace)]
  rfl

/-! ### How data moves -/

theorem transport_moveAll (w : World σ) (a b : Place) (t : TransportId) :
    (w.moveAll a b).transport t = w.transport t := by
  rw [World.moveAll, transport_setContainer, transport_setContainer]

/-- Data moves on to the next place. -/
theorem Conveying.moveAll (h : w.Conveying p l x t load) {a b : Place} {xs ys : List Place}
    (hroute : side.route p l = xs ++ b :: a :: ys) :
    w.Conveyed (w.moveAll a b) p l x t load := by
  have hrig : (w.moveAll a b).rigging = w.rigging := rigging_of_bare (bare_moveAll w a b)
  have hb : b ∈ side.route p l := by
    rw [hroute]
    exact List.mem_append_right xs List.mem_cons_self
  have ha : a ∈ side.route p l := by
    rw [hroute]
    exact List.mem_append_right xs (List.mem_cons_of_mem b List.mem_cons_self)
  refine ⟨hrig, h.rigged.of_rigging hrig, fun other => ?_, h.room⟩
  rw [row, transport_moveAll]
  by_cases hother : other = side
  · subst hother
    have hcarry := h.carry other
    have hnd := h.rigged.route_nodup other
    rw [row, hroute, List.map_append, List.map_cons, List.map_cons, ← List.cons_append] at hcarry
    rw [hroute] at hnd ⊢
    rw [map_moveAll hnd (h.rigged.has hb) (h.rigged.has ha), ← List.cons_append]
    exact hcarry.transfer (h.room other)
  · -- The other side has no part in this.
    have hnot : ∀ place ∈ side.route p l, place ∉ other.route p l := fun place hp ho =>
      hother ((Side.side_of_route ho).symm.trans (Side.side_of_route hp))
    rw [map_moveAll_of_notMem (hnot a ha) (hnot b hb)]
    exact h.carry other

/-- A member hands on what it has. -/
theorem Conveying.forward (h : w.Conveying p l x t load) (hm : m ∈ side.stops l)
    (hx : side = .inbound → m ≠ x) : w.Conveyed (w.forward side m.id) p l x t load := by
  rcases h.rigged.route_onward hm hx with ⟨xs, ys, hroute⟩
  have hforward : w.forward side m.id =
      if (w.container (side.place m.id)).isEmpty then w
      else w.moveAll (side.place m.id) (w.next side m.id) := by
    cases side <;> rfl
  rw [hforward]
  by_cases hempty : (w.container (side.place m.id)).isEmpty = true
  · rw [if_pos hempty]
    exact h.refl
  · rw [if_neg hempty]
    exact h.moveAll hroute

/-- Data comes to the transport. -/
theorem Conveying.deliver (h : w.Conveying p l x t load) (side : Side) :
    w.Conveyed (w.deliver (side.gate p x) t side) p l x t load := by
  obtain ⟨gate, hgate⟩ : ∃ gate, gate = side.gate p x := ⟨_, rfl⟩
  rcases h.rigged.route_gate side with ⟨rest, hroute⟩
  rw [← hgate] at hroute ⊢
  obtain ⟨left, filled, htransfer⟩ : ∃ left filled,
      (w.container gate).transferTo ((w.transport t).kept side) = (left, filled) := ⟨_, _, rfl⟩
  have hdeliver : w.deliver gate t side =
      (w.setContainer gate left).updateTransport t (·.keep side filled) := by
    rw [World.deliver, htransfer]
  have hrig : (w.deliver gate t side).rigging = w.rigging := by
    rw [hdeliver, rigging_updateTransport, rigging_of_bare (bare_setContainer w gate left)]
  have hwired : t < (w.setContainer gate left).transports.length :=
    (h.rigged.of_rigging (rigging_of_bare (bare_setContainer w gate left))).wired
  have hmem : gate ∈ side.route p l := by
    rw [hroute]
    exact List.mem_cons_self
  refine ⟨hrig, h.rigged.of_rigging hrig, fun other => ?_, h.room⟩
  rw [row, hdeliver, transport_updateTransport hwired, transport_setContainer,
    container_updateTransport]
  by_cases hother : other = side
  · subst hother
    have hcarry := h.carry other
    have hout := (List.nodup_cons.mp (hroute ▸ h.rigged.route_nodup other)).1
    rw [row, hroute, List.map_cons, ← List.nil_append (_ :: _)] at hcarry
    -- The transport is the last of the row, and the gate stands next to it.
    have hmoved := hcarry.transfer (h.room other)
    rw [htransfer] at hmoved
    rw [Transport.kept_keep, hroute, List.map_cons,
      container_setContainer_self (h.rigged.has hmem), map_setContainer_of_notMem hout]
    exact hmoved
  · have hnot : gate ∉ other.route p l := fun ho =>
      hother ((Side.side_of_route ho).symm.trans (Side.side_of_route hmem))
    rw [Transport.kept_keep_ne _ _ hother, map_setContainer_of_notMem hnot]
    exact h.carry other

/-- Data comes in at the entry of a side. -/
theorem Conveying.add (h : w.Conveying p l x t load) (side : Side) (msg : Message)
    (hroom : ∀ s, ((load s).with (if s = side then [msg] else [])).bytes.length ≤
      Capacity.defaultMax) :
    w.Conveyed (w.updateContainer (w.target p side .start) (·.add msg)) p l x t fun s =>
      (load s).with (if s = side then [msg] else []) := by
  obtain ⟨w', hw⟩ : ∃ w', w' = w.updateContainer (w.target p side .start) (·.add msg) := ⟨_, rfl⟩
  obtain ⟨entry, hentry⟩ : ∃ entry, entry = w.target p side .start := ⟨_, rfl⟩
  rcases h.rigged.route_entry side with ⟨xs, hroute⟩
  rw [← hentry] at hroute
  have hw' : w' = w.setContainer entry ((w.container entry).add msg) := by
    rw [hw, hentry]
    rfl
  rw [← hw]
  have hrig : w'.rigging = w.rigging := by
    rw [hw', rigging_of_bare (bare_setContainer w entry _)]
  have hmem : entry ∈ side.route p l := by
    rw [hroute]
    exact List.mem_append_right xs List.mem_cons_self
  refine ⟨hrig, h.rigged.of_rigging hrig, fun other => ?_, hroom⟩
  rw [row, hw', transport_setContainer]
  by_cases hother : other = side
  · subst hother
    have hcarry := h.carry other
    have hroom := hroom other
    have hnd := h.rigged.route_nodup other
    rw [hroute] at hnd
    -- The entry is the last place of the row, and occurs there once.
    have hout := (List.nodup_cons.mp (List.perm_middle.nodup_iff.mp hnd)).1
    rw [List.append_nil] at hout
    rw [row, hroute, List.map_append, ← List.cons_append] at hcarry
    rw [if_pos rfl] at hroom ⊢
    rw [hroute, List.map_append, map_setContainer_of_notMem hout, ← List.cons_append,
      List.map_singleton, container_setContainer_self (h.rigged.has hmem)]
    exact hcarry.add msg hroom
  · have hnot : entry ∉ other.route p l := fun ho =>
      hother ((Side.side_of_route ho).symm.trans (Side.side_of_route hmem))
    rw [if_neg hother, Load.with_nil, map_setContainer_of_notMem hnot]
    exact h.carry other

end World

end Conduit
