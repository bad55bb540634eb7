import Conduit.Proofs.Codec.Collector
import Conduit.Proofs.World.Places

/-!
# Watching a Codec for Text

The codec that makes text of frames, between the head of a pipeline and a collector.
Every frame that comes to it is taken for the encoding of a text, and the text is what
comes to the collector. A frame that is no such thing is dropped and reported, so the
watch is only for frames that are `Legible`.

The codec keeps nothing back. Whatever containers are empty while nothing is under way
are empty again when all that was handed on has come to the collector, apart from that
of the head, which may have a use for what is there.

## Main definitions

* `TextFrame.reading`: A message as it comes out of the codec.
* `TextFrame.fault?`: Why it does not come out.
* `World.Relaying`: A codec for text, before a collector.
* `Watch.text`: What is seen of the collector past the codec.

## Theorems

* `fault?_none_iff`: A message has no fault exactly if it is legible.
* `decodeMessages_eq`, `decodeMessages_legible`: Each frame is taken by itself.
* `decodeContainer_legible`: Legible frames leave nothing behind.
* `Relaying.distinct`, `Relaying.targets_after`, `Relaying.targets_inactive`,
  `Relaying.targets_exception`: The three handlers, and who hears of what.
* `Relaying.updateHead`, `Relaying.updateActivation`: Changes that do not concern the codec.
* `Gathered.relaying`: The codec still has nothing to do after something has come.
* `textInbound_gathered`, `Relaying.announce`: Frames come to the collector as text.
* `text_faithful`: The codec goes along with the handler before it.
-/

namespace Conduit

namespace TextFrame

/-- A message as it comes out of the codec. -/
def reading : Message → List Message
  | .buffer frame =>
    match decode frame with
    | .ok text => [.text text]
    | .error _ => []
  | msg => [msg]

/-- The fault of a message, if it is a frame that is not text. -/
def fault? : Message → Option Error
  | .buffer frame =>
    match decode frame with
    | .ok _ => none
    | .error cause => some cause
  | _ => none

/-- A frame is the encoding of a text. -/
def Legible : Message → Prop
  | .buffer frame => ∃ text, decode frame = .ok text
  | _ => True

/-- A message has no fault exactly if it is legible. -/
theorem fault?_none_iff (msg : Message) : fault? msg = none ↔ Legible msg := by
  cases msg with
  | buffer frame =>
      simp only [fault?, Legible]
      cases decode frame with
      | ok text => exact ⟨fun _ => ⟨text, rfl⟩, fun _ => rfl⟩
      | error cause => exact ⟨fun hnone => (nomatch hnone), fun ⟨_, htext⟩ => (nomatch htext)⟩
  | text _ | u8 _ | u16 _ | u32 _ => exact ⟨fun _ => trivial, fun _ => rfl⟩

/-- Each frame is taken by itself, and the first fault is found. -/
theorem decodeMessages_eq (msgs : List Message) :
    decodeMessages msgs = (msgs.flatMap reading, msgs.findSome? fault?) := by
  induction msgs with
  | nil => rfl
  | cons msg msgs ih =>
      rw [decodeMessages, ih, List.flatMap_cons, List.findSome?_cons]
      cases msg with
      | buffer frame =>
          simp only [reading, fault?]
          cases decode frame with
          | ok text => rfl
          | error cause => rfl
      | text _ | u8 _ | u16 _ | u32 _ => rfl

theorem decodeMessages_legible {msgs : List Message} (h : ∀ msg ∈ msgs, Legible msg) :
    decodeMessages msgs = (msgs.flatMap reading, none) := by
  have hnone : msgs.findSome? fault? = none :=
    List.findSome?_eq_none_iff.mpr fun msg hmsg => (fault?_none_iff msg).mpr (h msg hmsg)
  rw [decodeMessages_eq, hnone]

/-- Frames that are legible leave nothing behind. -/
theorem decodeContainer_legible {c : Container} {msgs : List Message} (h : c.Holds [] msgs)
    (hlegible : ∀ msg ∈ msgs, Legible msg) :
    ∃ left, decodeContainer c = (msgs.flatMap reading, none, left) ∧ left.Holds [] [] := by
  refine ⟨{ c with messages := [] }, ?_, h.bytes, rfl⟩
  have hnone : ({ c with messages := [] } : Container).bytes.isReadable = false :=
    h.bytes.unreadable
  rw [decodeContainer, Container.drain]
  simp only [hnone, Bool.false_eq_true, if_false, List.append_nil, h.messages,
    decodeMessages_legible hlegible]

end TextFrame

namespace World

variable {σ : Type} {w w' : World σ} {p : PipelineId} {m s x : Member} {t : TransportId}
  {order : ByteOrder} {still : Place → Prop} {msgs : List Message}

/-- A pipeline of a head, a codec for text that has nothing to do, and a collector. Nothing was
    sent, and the places of which `still` is true are empty, but perhaps for that of the head. -/
structure Relaying (w : World σ) (p : PipelineId) (m s x : Member) (t : TransportId)
    (order : ByteOrder) (still : Place → Prop) : Prop where
  collecting : w.Collecting p [m, s, x] x t
  role : (w.context s.id).handler.role = .text order
  waiting : (w.context s.id).inbound.Holds [] []
  unsent : (w.transport t).outbound.Holds [] []
  empty : ∀ place, still place → place ≠ .inbound m.id → (w.container place).Holds [] []

theorem Relaying.distinct (h : w.Relaying p m s x t order still) :
    m.id ≠ s.id ∧ m.id ≠ x.id ∧ s.id ≠ x.id := by
  have hnodup := h.collecting.hosts.holds.linked.ids_nodup
  simp only [Roster.ids_cons, Roster.ids_nil, List.nodup_cons, List.mem_cons, List.not_mem_nil,
    or_false, not_or] at hnodup
  exact ⟨hnodup.1.1, hnodup.1.2, hnodup.2.1⟩

/-! ### The members past one another -/

section Targets

variable (h : w.Relaying p m s x t order still) (hs : s.events = TextFrame.events)
include h hs

theorem Relaying.targets_after :
    Roster.targets [m, s, x] (.after m.id) .messageUpdated = [s, x] ∧
      Roster.targets [m, s, x] (.after s.id) .messageUpdated = [x] := by
  have hne := h.distinct.1
  have hx := h.collecting.handles .messageUpdated rfl
  have htext : s.events.handles .messageUpdated = true := by
    rw [hs]
    rfl
  constructor
  · simp [Roster.targets, Roster.ahead, htext, hx]
  · simp [Roster.targets, Roster.ahead, hne, hx]

/-- Of the end of the stream, the codec for text does not hear. -/
theorem Relaying.targets_inactive :
    Roster.targets [m, s, x] (.after m.id) .channelInactive = [x] := by
  have hx := h.collecting.handles .channelInactive rfl
  have htext : s.events.handles .channelInactive = false := by
    rw [hs]
    rfl
  simp [Roster.targets, Roster.ahead, htext, hx]

/-- Nor does it hear of failures. -/
theorem Relaying.targets_exception (hm : m.events.handles .exceptionCaught = false) :
    Roster.targets [m, s, x] (.at m.id) .exceptionCaught = [x] := by
  have hx := h.collecting.handles .exceptionCaught rfl
  have htext : s.events.handles .exceptionCaught = false := by
    rw [hs]
    rfl
  simp [Roster.targets, Roster.ahead, hm, htext, hx]

end Targets

/-! ### What the codec does not see -/

theorem Relaying.updateHead (h : w.Relaying p m s x t order still) {f : Context → Context}
    (hf : Context.OwnChange f) : (w.updateContext m.id f).Relaying p m s x t order still := by
  rcases h.distinct with ⟨hms, hmx, -⟩
  have hcontext := context_updateContext_ne (w := w) hms f
  refine ⟨h.collecting.updateContext hmx hf, ?_, ?_, h.unsent, fun place hplace hne => ?_⟩
  · rw [hcontext]
    exact h.role
  · rw [hcontext]
    exact h.waiting
  · rw [container_ownChange hf hne]
    exact h.empty place hplace hne

theorem Relaying.updateActivation (h : w.Relaying p m s x t order still)
    (f : Activation → Activation) :
    (w.updateActivation p f).Relaying p m s x t order still := by
  refine ⟨h.collecting.updateActivation f, h.role, h.waiting, h.unsent,
    fun place hplace hne => ?_⟩
  rw [container_updateActivation]
  exact h.empty place hplace hne

/-- The codec still has nothing to do after something has come to the collector. -/
theorem Gathered.relaying {causes : List Error}
    (h : w.Gathered w' p [m, s, x] x t msgs causes) (hw : w.Relaying p m s x t order still) :
    w'.Relaying p m s x t order still := by
  have hcontext := h.context s.id hw.distinct.2.2
  refine ⟨h.collecting, ?_, ?_, ?_, fun place hplace hne => ?_⟩
  · rw [hcontext]
    exact hw.role
  · rw [hcontext]
    exact hw.waiting
  · rw [h.outbound]
    exact hw.unsent
  · by_cases hx : place = .inbound x.id
    · rw [hx]
      exact h.collecting.waiting
    · rw [h.container hx]
      exact hw.empty place hplace hne

/-! ### What the codec does -/

variable [Journal σ]

/-- The codec makes text of what waits for it, and the text comes to the collector. -/
theorem textInbound_gathered (h : w.Collecting p [m, s, x] x t) (hne : s.id ≠ x.id)
    (hsome : Roster.targets [m, s, x] (.after s.id) .messageUpdated = [x])
    (hwaiting : (w.context s.id).inbound.Holds [] msgs)
    (hlegible : ∀ msg ∈ msgs, TextFrame.Legible msg) (user : Caller σ → Caller σ) (depth : Nat) :
    ∃ left w', w.textInbound (respond user (depth + 1)) s.id = (.ok (), w') ∧
      left.Holds [] [] ∧
      (w.setContainer (.inbound s.id) left).Gathered w' p [m, s, x] x t
        (msgs.flatMap TextFrame.reading) [] := by
  rcases TextFrame.decodeContainer_legible hwaiting hlegible with ⟨left, hdecode, hleft⟩
  have hset : (w.setContainer (.inbound s.id) left).Collecting p [m, s, x] x t :=
    h.updateContext hne fun y => ⟨left, y.handler.role, rfl⟩
  have hs : s ∈ [m, s, x] := List.mem_cons_of_mem m List.mem_cons_self
  refine ⟨left, _, ?_, hleft, hset.handOn hs user depth hsome (msgs.flatMap TextFrame.reading)⟩
  have hqueued : w.container (.inbound s.id) = (w.context s.id).inbound := rfl
  rw [textInbound, hqueued, hdecode]

/-- Frames that come to the codec come to the collector as text. -/
theorem Relaying.announce (h : w.Relaying p m s x t order still)
    (hs : s.events = TextFrame.events) (hlegible : ∀ msg ∈ msgs, TextFrame.Legible msg)
    (user : Caller σ → Caller σ) (depth : Nat) :
    let w' := (w.updateContainer (w.nextInbound m.id) (·.pushAll msgs)).fireFrom
      (respond user (depth + 2)) m.id .messageUpdated
    ∃ left, left.Holds [] [] ∧
      (w.setContainer (.inbound s.id) left).Gathered w' p [m, s, x] x t
        (msgs.flatMap TextFrame.reading) [] := by
  intro w'
  rcases h.distinct with ⟨hms, hmx, hsx⟩
  rcases h.targets_after hs with ⟨hafter, hlast⟩
  have hhead : m ∈ [m, s, x] := List.mem_cons_self
  have hmid : s ∈ [m, s, x] := List.mem_cons_of_mem m List.mem_cons_self
  have hknown := h.collecting.hosts.known s hmid
  obtain ⟨w₁, hw₁⟩ : ∃ w₁, w₁ = w.updateContainer (.inbound s.id) (·.pushAll msgs) := ⟨_, rfl⟩
  have hcontext : w₁.context s.id = { w.context s.id with
      inbound := (w.context s.id).inbound.pushAll msgs } := by
    rw [hw₁]
    exact context_updateContext_self hknown _
  have hcollecting : w₁.Collecting p [m, s, x] x t := by
    rw [hw₁]
    exact h.collecting.updateContext hsx fun y => ⟨_, y.handler.role, rfl⟩
  -- The codec is called while the pipeline is held.
  have hwaiting : ((w₁.hold (.pipeline p)).context s.id).inbound.Holds [] msgs := by
    change (w₁.context s.id).inbound.Holds [] msgs
    rw [hcontext]
    exact h.waiting.pushAll msgs
  rcases textInbound_gathered hcollecting.hold hsx hlast hwaiting hlegible user depth with
    ⟨left, w₂, htext, hleft, hgathered⟩
  have hcall : respond user (depth + 2) (.handler s.id (.inbound .messageUpdated))
      (w₁.hold (.pipeline p)) = (.ok (), w₂) := by
    have hrole : ((w₁.hold (.pipeline p)).context s.id).handler.role = .text order := by
      change (w₁.context s.id).handler.role = _
      rw [hcontext]
      exact h.role
    rw [respond, answer, handlerCalled, hrole]
    exact htext
  have hfire : w' = w₂.release (.pipeline p) := by
    have hnext := h.collecting.hosts.nextInbound_some h.collecting.ready hhead hafter
    change (w.updateContainer (w.nextInbound m.id) _).fireFrom _ _ _ = _
    rw [hnext, ← hw₁, hcollecting.hosts.fireFrom_eq hcollecting.ready hhead, fireNow_eq,
      hcollecting.hold.hosts.dispatch_some hafter, hcall]
  -- What waited in between is not there any more.
  have hset : w₁.setContainer (.inbound s.id) left = w.setContainer (.inbound s.id) left := by
    rw [hw₁]
    exact setContainer_setContainer w (.inbound s.id) _ left
  have hready : (w₁.setContainer (.inbound s.id) left).Ready p :=
    hcollecting.ready.setContainer _ _
  have hreleased : (w₁.setContainer (.inbound s.id) left).Gathered (w₂.release (.pipeline p)) p
      [m, s, x] x t (msgs.flatMap TextFrame.reading) [] :=
    Gathered.release hgathered hready
  rw [hset] at hreleased
  rw [hfire]
  exact ⟨left, hleft, hreleased⟩

end World

/-! ### The watch -/

/-- What is seen of the collector past a codec for text. -/
def Watch.text (σ : Type) (p : PipelineId) (m s x : Member) (t : TransportId) (order : ByteOrder)
    (still : Place → Prop) : Watch σ Message :=
  .transport t (fun w => w.Relaying p m s x t order still) TextFrame.Legible TextFrame.reading

namespace World

variable {σ : Type} {p : PipelineId} {m s x : Member} {t : TransportId} {order : ByteOrder}
  {still : Place → Prop}

/-- The codec for text goes along with the handler before it. -/
theorem text_faithful [Journal σ] (user : Caller σ → Caller σ) (depth : Nat)
    (hm : m.events.handles .exceptionCaught = false) (hs : s.events = TextFrame.events) :
    (Watch.text σ p m s x t order still).Faithful user (depth + 2) p m [s, x] where
  hosts h := h.collecting.hosts
  ready h := h.collecting.ready
  own := by
    intro w f h hf
    exact ⟨Relaying.updateHead h hf, (List.append_nil _).symm, (List.append_nil _).symm, rfl⟩
  notice := by
    intro w n h
    have hh : w.Relaying p m s x t order still := h
    exact ⟨⟨hh.collecting.notice n, hh.role, hh.waiting, hh.unsent, hh.empty⟩,
      (List.append_nil _).symm, (List.append_nil _).symm, rfl⟩
  mark := by
    intro w q n h
    have hh : w.Relaying p m s x t order still := h
    exact ⟨⟨hh.collecting.mark q n, hh.role, hh.waiting, hh.unsent, hh.empty⟩,
      (List.append_nil _).symm, (List.append_nil _).symm, rfl⟩
  retire := by
    intro w h
    exact ⟨Relaying.updateActivation h _, rfl, rfl⟩
  announce := by
    intro w msgs h hproper
    have hh : w.Relaying p m s x t order still := h
    rcases hh.announce hs hproper user depth with ⟨left, hleft, hgathered⟩
    rcases hh.distinct with ⟨hms, hmx, hsx⟩
    have hown : Context.OwnChange fun y => { y with inbound := left } :=
      fun y => ⟨left, y.handler.role, rfl⟩
    have hknown := hh.collecting.hosts.known s (List.mem_cons_of_mem m List.mem_cons_self)
    have hhas : w.Has (.inbound s.id) := hknown
    have hcontext : (w.setContainer (.inbound s.id) left).context s.id =
        { w.context s.id with inbound := left } := context_updateContext_self hknown _
    have hset : (w.setContainer (.inbound s.id) left).Relaying p m s x t order still := by
      refine ⟨hh.collecting.updateContext hsx hown, ?_, ?_, hh.unsent,
        fun place hplace hne => ?_⟩
      · rw [hcontext]
        exact hh.role
      · rw [hcontext]
        exact hleft
      · by_cases htext : place = .inbound s.id
        · rw [htext, container_setContainer_self hhas]
          exact hleft
        · rw [container_setContainer_ne htext]
          exact hh.empty place hplace hne
    have hcalm : (Watch.text σ p m s x t order still).calm _ := hgathered.relaying hset
    -- The codec has nothing waiting again, so it is ready for the next frames.
    have hstep := hgathered.step hcalm TextFrame.Legible TextFrame.reading
    refine ⟨⟨hstep.calm, hstep.received, hstep.raised, hstep.activation⟩, ?_⟩
    rw [hgathered.context m.id hmx]
    exact context_updateContext_ne hms.symm _
  ended := by
    intro w h
    have hh : w.Relaying p m s x t order still := h
    rw [hh.collecting.passEvent List.mem_cons_self user (depth + 1) (hh.targets_inactive hs)]
    exact ⟨Watch.Step.refl h, rfl⟩
  report := by
    intro w kind cause h
    have hh : w.Relaying p m s x t order still := h
    have hgathered := hh.collecting.report user (depth + 2) (hh.targets_exception hs hm) kind cause
    exact ⟨hgathered.step (hgathered.relaying hh) _ _, hgathered.context m.id hh.distinct.2.1⟩

end World

end Conduit
