import Conduit.Pipeline.Response
import Conduit.Proofs.World.Assembly

/-!
# Static Handlers

Handlers that do nothing of their own. Whenever one is called it does what every
handler does by default, or nothing, or it fails; which of these may depend on
everything that was called before. What such handlers do to a pipeline is then
the library's doing, and can be said in advance.

A `Cast` gives the reactions. It is shown the calls so far, so a handler that
reacts differently from call to call is a cast, and so are handlers that react to
each other. The calls are kept in a `Diary`, which is the user's part of the world.
Of the library's notices the diary keeps only those of requests that were refused
for want of a channel, since that is all that is ever seen of them.

`tour` is the course that an event should take: it visits one member after the
other until one of them does not pass it on. Nothing in it calls anything back.

## Main definitions

* `Reaction`, `Cast`: What handlers do when they are called.
* `Called`, `Diary`: What is kept of it.
* `Cast.play`: A cast as a caller.
* `tour`: The course of an event.
* `World.Staged`: The handlers of a pipeline are up to a cast.

## Theorems

* `bare_jot`, `jot_jot`, `calls_of_bare`, `parts_of_bare`: What is written down of calls.
* `respond_custom`, `bare_collect`: Who answers for a context.
* `byDefault_inbound`, `byDefault_outbound`: Passing an event on.
* `Staged.congr`, `Staged.of_bare`, `Staged.hold`: Only a bare world matters.
* `aloof_respond`: Over coming and going, static handlers leave the world alone.
-/

namespace Conduit

open Roster

/-- What a handler does when it is called. -/
inductive Reaction where
  /-- What every handler does by default. -/
  | proceed
  /-- Nothing. -/
  | stop
  | fail (cause : Error)
  | panic (payload : Error.Payload)
  deriving Inhabited

/-- A call of a handler. -/
structure Called where
  context : ContextId
  callback : Callback
  deriving Inhabited

/-- What is kept of a play. -/
structure Diary where
  /-- The calls of handlers, in order. -/
  calls : List Called := []
  /-- The kinds of the requests that were refused for want of a channel. -/
  refused : List EventKind := []
  deriving Inhabited

instance : Journal Diary where
  record n diary :=
    match n with
    | .notAttached kind => { diary with refused := diary.refused ++ [kind] }
    | _ => diary

/-- How handlers react to a call, given the calls before it. -/
abbrev Cast := List Called → ContextId → Callback → Reaction

/-- The world with other calls in its diary. -/
def World.jot (w : World Diary) (calls : List Called) : World Diary :=
  { w with user := { w.user with calls } }

/-- A cast as the user's part of a caller. A panic counts as an error. -/
def Cast.play (cast : Cast) (call : Caller Diary) : Caller Diary
  | .handler c callback, w =>
    let later := w.jot (w.user.calls ++ [⟨c, callback⟩])
    match cast w.user.calls c callback with
    | .proceed => (.ok (), later.byDefault call c callback)
    | .stop => (.ok (), later)
    | .fail cause => (.error cause, later)
    | .panic payload => (.error (.ofPanic payload), later)
  | _, w => (.ok (), w)

/-- Where the course of an event ends. -/
inductive Arrival where
  /-- Past the last member. -/
  | through
  /-- At a member that did nothing. -/
  | stopped
  | failed (m : Member) (cause : Error)
  deriving Inhabited

/-- The calls of an event that visits one member after the other until one does not pass it
    on, added to those before it, and where that ends. -/
def tour (cast : Cast) (callback : Callback) (calls : List Called) :
    Roster → List Called × Arrival
  | [] => (calls, .through)
  | m :: ms =>
    let later := calls ++ [⟨m.id, callback⟩]
    match cast calls m.id callback with
    | .proceed => tour cast callback later ms
    | .stop => (later, .stopped)
    | .fail cause => (later, .failed m cause)
    | .panic payload => (later, .failed m (.ofPanic payload))

namespace World

variable {cast : Cast} {w w' : World Diary} {p : PipelineId} {l : Roster}
  {halts : ContextId → Bool} {c : ContextId}

/-- The handlers of a pipeline are up to a cast, apart from those of collectors, and the
    pipeline can be worked on. -/
structure Staged (w : World Diary) (p : PipelineId) (l : Roster) (halts : ContextId → Bool) :
    Prop where
  hosts : w.Hosts p l
  ready : w.Ready p
  custom : ∀ m ∈ l, halts m.id = false → ∃ tag, (w.context m.id).handler.role = .custom tag
  collector : ∀ m ∈ l, halts m.id = true → ∃ t, (w.context m.id).handler = .collector t

/-! ### Bare worlds with a diary -/

@[simp] theorem bare_jot (calls : List Called) : (w.jot calls).bare = w.bare.jot calls := rfl

@[simp] theorem jot_jot (a b : List Called) : (w.jot a).jot b = w.jot b := rfl

theorem calls_of_bare {calls : List Called} (h : w'.bare = w.bare.jot calls) :
    w'.user.calls = calls :=
  congrArg (fun w => w.user.calls) h

/-- Where only calls and data are new, all else is as it was. -/
theorem parts_of_bare {calls : List Called} (h : w'.bare = w.bare.jot calls) :
    w'.user.refused = w.user.refused ∧ w'.promises = w.promises ∧
      w'.transports.map Transport.bare = w.transports.map Transport.bare :=
  ⟨(congrArg (fun w => w.user.refused) h :), (congrArg World.promises h :),
    (congrArg World.transports h :)⟩

theorem Staged.congr (h : w.Staged p l halts) (hchain : w'.chain p = w.chain p)
    (hloop : w'.loopOf p = w.loopOf p)
    (hctx : w'.contexts.map Context.bare = w.contexts.map Context.bare)
    (hthread : w'.inQueueThread = w.inQueueThread) (hkept : w'.isKept p = true) :
    w'.Staged p l halts where
  hosts := h.hosts.congr hchain hctx
  ready := h.ready.congr hloop hthread hkept
  custom := fun m hm hh => by
    -- A handler is not data, so it is the same in both.
    rcases h.custom m hm hh with ⟨tag, htag⟩
    exact ⟨tag, (context_congr (f := fun x => x.handler.role) (fun _ => rfl) hctx m.id).trans htag⟩
  collector := fun m hm hh => by
    rcases h.collector m hm hh with ⟨t, ht⟩
    exact ⟨t, (context_congr (f := Context.handler) (fun _ => rfl) hctx m.id).trans ht⟩

theorem Staged.of_bare (h : w.Staged p l halts) {calls : List Called}
    (hbare : w'.bare = w.bare.jot calls) : w'.Staged p l halts := by
  have hpipe : w'.pipelines.map Pipeline.bare = w.pipelines.map Pipeline.bare :=
    congrArg World.pipelines hbare
  have hthread : w'.bare.inQueueThread = (w.bare.jot calls).inQueueThread := by rw [hbare]
  have hkept : w'.bare.isKept p = (w.bare.jot calls).isKept p := by rw [hbare]
  exact h.congr (chain_congr hpipe p) (loopOf_congr hpipe p) (congrArg World.contexts hbare)
    hthread (hkept.trans h.ready.kept)

theorem Staged.hold (h : w.Staged p l halts) : (w.hold (.pipeline p)).Staged p l halts :=
  h.congr rfl rfl rfl rfl (isKept_hold w p)

/-! ### Who answers -/

theorem respond_custom {tag : Nat} (h : (w.context c).handler.role = .custom tag) (depth : Nat)
    (callback : Callback) :
    respond cast.play (depth + 1) (.handler c callback) w =
      cast.play (respond cast.play depth) (.handler c callback) w :=
  respond_user h cast.play depth callback

/-- A collector changes nothing but data. -/
theorem bare_collect (c : ContextId) (t : TransportId) (event : InboundEvent) :
    (w.collect c t event).bare = w.bare := by
  cases event with
  | exceptionCaught cause => exact bare_updateTransport (by intro x; rfl) w t
  | userEventTriggered msg => exact bare_updateTransport (by intro x; rfl) w t
  | messageUpdated =>
      rw [collect, deliver, bare_updateTransport (by intro x; rfl), bare_setContainer]
  | _ => rfl

/-! ### Passing an event on -/

/-- By default an inbound event goes on past the handler, with the data that came. -/
theorem byDefault_inbound (h : w.Staged p l halts) {m : Member} (hm : m ∈ l)
    (call : Caller Diary) (event : InboundEvent) :
    ∃ w₁ : World Diary, w₁.bare = w.bare ∧ w.byDefault call m.id (.inbound event) =
      ((w₁.hold (.pipeline p)).fireNow call p (.after m.id) event).release (.pipeline p) := by
  cases event with
  | messageUpdated =>
      have hbare : (w.forwardInbound m.id).bare = w.bare := bare_forwardInbound w m.id
      -- The data is moved first, which the stage does not notice.
      have hstaged : (w.forwardInbound m.id).Staged p l halts := h.of_bare hbare
      exact ⟨w.forwardInbound m.id, hbare, hstaged.hosts.fireFrom_eq hstaged.ready hm call _⟩
  | _ => exact ⟨w, rfl, h.hosts.fireFrom_eq h.ready hm call _⟩

/-- By default a request goes on past the handler, with the data that came. -/
theorem byDefault_outbound (h : w.Staged p l halts) {m : Member} (hm : m ∈ l)
    (call : Caller Diary) (r : Request) :
    ∃ w₁ : World Diary, w₁.bare = w.bare ∧ w.byDefault call m.id (.outbound r) =
      ((w₁.hold (.pipeline p)).sendNow call p (.after m.id) r).release (.pipeline p) := by
  rcases r with ⟨action, f⟩
  cases action with
  | flush =>
      have hbare : (w.forwardOutbound m.id).bare = w.bare := bare_forwardOutbound w m.id
      have hstaged : (w.forwardOutbound m.id).Staged p l halts := h.of_bare hbare
      exact ⟨w.forwardOutbound m.id, hbare, hstaged.hosts.requestWith_eq hstaged.ready hm call _⟩
  | _ => exact ⟨w, rfl, h.hosts.requestWith_eq h.ready hm call _⟩

/-! ### Coming and going -/

/-- Over coming and going, static handlers do no more than note that they were called. -/
theorem aloof_respond (cast : Cast) (depth : Nat) : Aloof (respond cast.play depth) := by
  intro c hook w
  cases depth with
  | zero => exact ⟨.error tooDeep, w.user, rfl⟩
  | succ depth =>
      cases hrole : (w.context c).handler.role with
      | custom tag =>
          rw [respond_custom hrole, Cast.play]
          cases cast w.user.calls c (.hook hook) <;> exact ⟨_, _, rfl⟩
      | _ =>
          -- The library's own handlers have no hooks.
          refine ⟨.ok (), w.user, ?_⟩
          rw [respond, answer, handlerCalled, hrole]
          rfl

end World

end Conduit
