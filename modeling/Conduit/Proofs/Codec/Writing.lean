import Conduit.Proofs.Dispatch.Flush
import Conduit.Proofs.Framing.TextLines

/-!
# Writing Text

What becomes of text that is written to a pipeline with a codec for text in it, where
no other handler sees flushes. The text waits for the codec as a message. The flush
that comes with it has the codec put the encoding where the sink looks for bytes, and
takes it on to the transport, all within the one call. So between two calls nothing
waits anywhere, and the transport has the encodings of all texts, one after the other.

## Main definitions

* `World.Writing`: A pipeline that text can be written to.
* `World.writeAll`: Several texts.

## Theorems

* `encodeAll_text`: What the codec makes of a text.
* `Writing.mem`: The codec is the last to hear of a flush.
* `Writing.flushed`: A flush leaves the pipeline as it was.
* `Writing.takeBytes`: The bytes are read back.
* `textOutbound_flush`: What the codec makes of a flush.
* `Writing.write`: One text.
* `Writing.writeAll`: Several texts.
-/

namespace Conduit

open Utf8

/-- A text that waits by itself is turned into its encoding. -/
theorem TextFrame.encodeAll_text (order : ByteOrder) {c other : Container} {text : String}
    (h : c.Holds [] [.text text]) (hother : other.Holds [] [])
    (hroom : (encode text).length ≤ Capacity.defaultMax) :
    ∃ left filled, encodeAll order c other = (left, filled) ∧ left.Holds [] [] ∧
      filled.Holds (encode text) [] := by
  have hcopy := Sealed.content_copied order (encode text)
  have hadd : (other.add (.buffer (Sealed.copied order (encode text)))).Holds (encode text) [] := by
    have hadded := (hother.add (s := Sealed.copied order (encode text)) (by rwa [hcopy])).1
    rwa [hcopy] at hadded
  have hdrained : ({ c with messages := [] } : Container).Holds [] [] := ⟨h.bytes, rfl⟩
  -- No loose bytes wait, so nothing but the text is moved.
  rcases hdrained.transferTo hadd (by rwa [List.append_nil]) with
    ⟨left, filled, htransfer, hleft, hfilled⟩
  rw [List.append_nil] at hfilled
  refine ⟨left, filled, ?_, hleft, hfilled⟩
  rw [encodeAll, Container.drain, h.messages]
  exact htransfer

namespace World

variable {σ : Type} {w w' : World σ} {p : PipelineId} {l : Roster} {s : Member}
  {order : ByteOrder} {t : TransportId} {still : Place → Prop} {sent : Bytes}

/-- Nothing has come to a transport, and there was no failure. -/
def Untroubled (w : World σ) (t : TransportId) : Prop :=
  (w.transport t).inbound.Holds [] [] ∧ (w.transport t).exceptions = []

/-- A codec for text is the one handler of flushes in a pipeline, and the transport has got
    `sent` from it. The places of which `still` is true are empty. -/
structure Writing (w : World σ) (p : PipelineId) (l : Roster) (s : Member) (t : TransportId)
    (order : ByteOrder) (still : Place → Prop) (sent : Bytes) : Prop where
  hosts : w.Hosts p l
  ready : w.Ready p
  flushes : Roster.targets l.reverse .start .flush = [s]
  role : (w.context s.id).handler.role = .text order
  sink : w.sinkOf p = .embedded t
  wired : t < w.transports.length
  waiting : (w.container (.outbound s.id)).Holds [] []
  passing : (w.container (.sink p)).Holds [] []
  sent : (w.transport t).outbound.Holds sent []
  untroubled : w.Untroubled t
  empty : ∀ place, still place → (w.container place).Holds [] []

theorem Writing.mem (h : w.Writing p l s t order still sent) :
    s ∈ l ∧ Roster.targets l.reverse (.after s.id) .flush = [] := by
  have hnodup := Roster.ids_nodup_reverse.mpr h.hosts.holds.linked.ids_nodup
  rcases Roster.targets_cons hnodup h.flushes with ⟨hmem, -, hafter, -, -⟩
  exact ⟨List.mem_reverse.mp hmem, hafter⟩

/-- A flush through the codec leaves the pipeline as it was, once nothing waits. -/
theorem Writing.flushed (h : w.Writing p l s t order still sent) {left emptied kept : Container}
    {more : Bytes} (hleft : left.Holds [] []) (hemptied : emptied.Holds [] [])
    (hkept : kept.Holds more []) (f : PromiseId) :
    ((w.newPromise.2.setContainer (.outbound s.id) left).flushed p t f emptied kept).Writing p l s t
      order still more := by
  obtain ⟨w₁, hw₁⟩ : ∃ w₁, w₁ = w.newPromise.2.setContainer (.outbound s.id) left := ⟨_, rfl⟩
  have hhosts₀ : w.newPromise.2.Hosts p l := h.hosts.congr rfl rfl
  have hready₀ : w.newPromise.2.Ready p := h.ready.congr rfl rfl h.ready.kept
  have hhosts₁ : (w₁.setContainer (.sink p) emptied).Hosts p l := by
    rw [hw₁]
    exact (hhosts₀.setContainer _ _).setContainer _ _
  have hready₁ : (w₁.setContainer (.sink p) emptied).Ready p := by
    rw [hw₁]
    exact (hready₀.setContainer _ _).setContainer _ _
  -- Two places are different from before, and the transport, and nothing else is.
  have hne : Place.outbound s.id ≠ .sink p := fun he => nomatch he
  have houtbound : w.newPromise.2.Has (.outbound s.id) := hhosts₀.known s h.mem.1
  have hsink : w₁.Has (.sink p) := by
    rw [hw₁]
    exact length_of_sink h.sink
  have hwaiting : ((w₁.flushed p t f emptied kept).container (.outbound s.id)) = left := by
    rw [container_flushed, container_setContainer_ne hne, hw₁,
      container_setContainer_self houtbound]
  have hpassing : ((w₁.flushed p t f emptied kept).container (.sink p)) = emptied := by
    rw [container_flushed, container_setContainer_self hsink]
  have htransport : (w₁.flushed p t f emptied kept).transport t = { w.transport t with
      sunk := (w.transport t).sunk ++ [.flush], outbound := kept } := by
    rw [hw₁]
    exact transport_updateTransport h.wired _
  rw [← hw₁]
  refine ⟨?_, ?_, h.flushes, ?_, ?_, ?_, ?_, ?_, ?_, ?_, ?_⟩
  · exact hhosts₁.congr rfl rfl
  · exact hready₁.congr rfl rfl hready₁.kept
  · change ((w₁.setContainer (.sink p) emptied).context s.id).handler.role = _
    rw [handler_setContainer, hw₁, handler_setContainer]
    exact h.role
  · change (w₁.setContainer (.sink p) emptied).sinkOf p = _
    rw [sinkOf_setContainer, hw₁, sinkOf_setContainer]
    exact h.sink
  · rw [hw₁]
    exact Nat.lt_of_lt_of_le h.wired (Nat.le_of_eq (List.length_modify _ _ _).symm)
  · rw [hwaiting]
    exact hleft
  · rw [hpassing]
    exact hemptied
  · rw [htransport]
    exact hkept
  · rw [Untroubled, htransport]
    exact h.untroubled
  · intro place hplace
    by_cases hout : place = .outbound s.id
    · rw [hout, hwaiting]
      exact hleft
    · by_cases hpass : place = .sink p
      · rw [hpass, hpassing]
        exact hemptied
      · rw [container_flushed, container_setContainer_ne hpass, hw₁, container_setContainer_ne hout]
        exact h.empty place hplace

/-- The bytes that have come to the transport are read back, and it has nothing any more. -/
theorem Writing.takeBytes (h : w.Writing p l s t order still sent) :
    (w.takeBytes t .outbound).1.content = sent ∧
      (w.takeBytes t .outbound).2.Writing p l s t order still [] := by
  -- Reading them leaves the bytes in the buffer, so they are discarded after that.
  rcases h.sent.bytes.readBytes with ⟨rest, hread, hrest⟩
  obtain ⟨kept, hkept⟩ : ∃ kept : Container,
      kept = { (w.transport t).outbound with bytes := rest.discardReadBytes } := ⟨_, rfl⟩
  have htake : w.takeBytes t .outbound = (.ofBytes (w.transport t).outbound.bytes.order sent,
      w.updateTransport t (·.keep .outbound kept)) := by
    rw [World.takeBytes, Transport.kept, hread, hkept]
  have htransport : (w.updateTransport t (·.keep .outbound kept)).transport t =
      { w.transport t with outbound := kept } := transport_updateTransport h.wired _
  rw [htake]
  refine ⟨Sealed.content_ofBytes _ _, ⟨h.hosts.congr rfl rfl, h.ready.congr rfl rfl h.ready.kept,
    h.flushes, h.role, h.sink, ?_, h.waiting, h.passing, ?_, ?_, fun place hplace => ?_⟩⟩
  · rw [length_updateTransport]
    exact h.wired
  · rw [htransport, hkept]
    exact ⟨hrest, h.sent.messages⟩
  · rw [Untroubled, htransport]
    exact h.untroubled
  · have hempty := h.empty place hplace
    cases place <;> exact hempty

/-! ### The course of a flush -/

variable [Journal σ] {f : PromiseId}

/-- The codec turns a text into bytes for the sink, and passes the flush on to it. -/
theorem textOutbound_flush {text : String} (hhosts : w.Hosts p l) (hready : w.Ready p)
    (order : ByteOrder) (hmem : s ∈ l) (hafter : Roster.targets l.reverse (.after s.id) .flush = [])
    (hsink : w.sinkOf p = .embedded t) (hwired : t < w.transports.length)
    (hwaiting : (w.container (.outbound s.id)).Holds [] [.text text])
    (hpassing : (w.container (.sink p)).Holds [] [])
    (hsent : (w.transport t).outbound.Holds sent [])
    (hroom : (sent ++ encode text).length ≤ Capacity.defaultMax) (hnew : w.promise f = {})
    (user : Caller σ → Caller σ) (depth : Nat) :
    ∃ left emptied kept, left.Holds [] [] ∧ emptied.Holds [] [] ∧
      kept.Holds (sent ++ encode text) [] ∧
      w.textOutbound (respond user (depth + 1)) s.id order f =
        (w.setContainer (.outbound s.id) left).flushed p t f emptied kept := by
  have hlength : (encode text).length ≤ Capacity.defaultMax := by
    rw [List.length_append] at hroom
    omega
  rcases TextFrame.encodeAll_text order hwaiting hpassing hlength with
    ⟨left, filled, hencode, hleft, hfilled⟩
  obtain ⟨w₁, hw₁⟩ : ∃ w₁, w₁ =
      (w.setContainer (.outbound s.id) left).setContainer (.sink p) filled := ⟨_, rfl⟩
  have hhosts₁ : w₁.Hosts p l := hw₁ ▸ (hhosts.setContainer _ _).setContainer _ _
  have hready₁ : w₁.Ready p := hw₁ ▸ (hready.setContainer _ _).setContainer _ _
  have hsink₁ : w₁.sinkOf p = .embedded t := by
    rw [hw₁, sinkOf_setContainer, sinkOf_setContainer]
    exact hsink
  have hplace : (w.setContainer (.outbound s.id) left).Has (.sink p) := length_of_sink hsink
  have hpassing₁ : (w₁.container (.sink p)).Holds (encode text) [] := by
    rw [hw₁, container_setContainer_self hplace]
    exact hfilled
  have hwired₁ : t < w₁.transports.length := by
    rw [hw₁]
    exact hwired
  have hsent₁ : (w₁.transport t).outbound.Holds sent [] := by
    rw [hw₁]
    exact hsent
  have hnew₁ : w₁.promise f = {} := by
    rw [hw₁]
    exact hnew
  -- The pipeline is held while the sink is called.
  rcases sinkRequest_flush (w := w₁.hold (.pipeline p)) hsink₁ hwired₁ hpassing₁ hsent₁ hroom hnew₁
    user depth with ⟨emptied, kept, hemptied, hkept, hflush⟩
  refine ⟨left, emptied, kept, hleft, hemptied, hkept, ?_⟩
  have hheld : (w₁.hold (.pipeline p)).Hosts p l := hhosts₁.congr rfl rfl
  have hrelease : ((w₁.hold (.pipeline p)).flushed p t f emptied kept).release (.pipeline p) =
      w₁.flushed p t f emptied kept := release_hold (w₁.flushed p t f emptied kept) _
  rw [textOutbound, hhosts.nextOutbound_none hready hmem hafter, hencode]
  dsimp only
  rw [← hw₁, hhosts₁.requestWith_eq hready₁ hmem, hheld.sendNow_none rfl hafter, hflush, hrelease,
    World.flushed, hw₁, setContainer_setContainer]
  rfl

/-- A text that is written comes to the transport as its encoding. -/
theorem Writing.write (h : w.Writing p l s t order still sent) {text : String}
    (hroom : (sent ++ encode text).length ≤ Capacity.defaultMax) (user : Caller σ → Caller σ)
    (depth : Nat) :
    (w.write (respond user (depth + 2)) p (.text text)).2.Writing p l s t order still
      (sent ++ encode text) := by
  rcases h.mem with ⟨hmem, hafter⟩
  have hhosts₀ : w.newPromise.2.Hosts p l := h.hosts.congr rfl rfl
  have hready₀ : w.newPromise.2.Ready p := h.ready.congr rfl rfl h.ready.kept
  -- The text waits for the codec.
  obtain ⟨queued, hqueued⟩ : ∃ queued, queued = (w.container (.outbound s.id)).add (.text text) :=
    ⟨_, rfl⟩
  have hholds : queued.Holds [] [.text text] := by
    rw [hqueued]
    exact h.waiting.pushAll [.text text]
  obtain ⟨w₁, hw₁⟩ : ∃ w₁, w₁ = w.newPromise.2.setContainer (.outbound s.id) queued := ⟨_, rfl⟩
  have hhosts₁ : w₁.Hosts p l := hw₁ ▸ hhosts₀.setContainer _ _
  have hready₁ : w₁.Ready p := hw₁ ▸ hready₀.setContainer _ _
  have hplace : w.newPromise.2.Has (.outbound s.id) := hhosts₀.known s hmem
  have hwaiting : (w₁.container (.outbound s.id)).Holds [] [.text text] := by
    rw [hw₁, container_setContainer_self hplace]
    exact hholds
  have hpassing : (w₁.container (.sink p)).Holds [] [] := by
    have hne : Place.sink p ≠ .outbound s.id := fun he => nomatch he
    rw [hw₁, container_setContainer_ne hne]
    exact h.passing
  have hrole : (w₁.context s.id).handler.role = .text order := by
    rw [hw₁, handler_setContainer]
    exact h.role
  have hsink : w₁.sinkOf p = .embedded t := by
    rw [hw₁, sinkOf_setContainer]
    exact h.sink
  have hwired : t < w₁.transports.length := by
    rw [hw₁]
    exact h.wired
  have hsent : (w₁.transport t).outbound.Holds sent [] := by
    rw [hw₁]
    exact h.sent
  have hnew : w₁.promise w.newPromise.1 = {} := by
    rw [hw₁]
    exact promise_newPromise w
  -- The flush comes right after it.
  rcases textOutbound_flush hhosts₁ hready₁ order hmem hafter hsink hwired hwaiting hpassing hsent
    hroom hnew user depth with ⟨left, emptied, kept, hleft, hemptied, hkept, hflush⟩
  -- The request is named, so that its promise is not computed over and over.
  obtain ⟨r, hr⟩ : ∃ r : Request, r = ⟨.flush, w.newPromise.1⟩ := ⟨_, rfl⟩
  have hcall : respond user (depth + 2) (.handler s.id (.outbound r)) w₁ =
      (.ok (), (w₁.setContainer (.outbound s.id) left).flushed p t w.newPromise.1 emptied
        kept) := by
    rw [respond, answer, handlerCalled, hrole, ← hflush, hr]
    rfl
  have hkind : r.kind = .flush := by
    rw [hr]
    rfl
  have hwrite : (w.write (respond user (depth + 2)) p (.text text)).2 =
      (w₁.setContainer (.outbound s.id) left).flushed p t w.newPromise.1 emptied kept := by
    change w.newPromise.2.execute _ p (.write .start (.text text) w.newPromise.1) = _
    rw [hready₀.execute, runJob, hhosts₀.outboundTarget_some h.flushes, updateContainer, ← hr]
    change (w.newPromise.2.setContainer _ ((w.container (.outbound s.id)).add _)).sendNow
      _ p _ r = _
    rw [← hqueued, ← hw₁]
    exact hhosts₁.sendNow_some (by rw [hkind]; rfl) (by rw [hkind]; exact h.flushes) hcall
  rw [hwrite, hw₁, setContainer_setContainer]
  exact h.flushed hleft hemptied hkept w.newPromise.1

/-! ### Several texts -/

/-- Writes several texts, one after the other. -/
def writeAll (w : World σ) (call : Caller σ) (p : PipelineId) (texts : List String) : World σ :=
  texts.foldl (fun w text => (w.write call p (.text text)).2) w

/-- Texts that are written come to the transport as their encodings, in order. -/
theorem Writing.writeAll {texts : List String} (h : w.Writing p l s t order still sent)
    (hroom : (sent ++ texts.flatMap encode).length ≤ Capacity.defaultMax)
    (user : Caller σ → Caller σ) (depth : Nat) :
    (w.writeAll (respond user (depth + 2)) p texts).Writing p l s t order still
      (sent ++ texts.flatMap encode) := by
  induction texts generalizing w sent with
  | nil =>
      rw [List.flatMap_nil, List.append_nil]
      exact h
  | cons text texts ih =>
      rw [List.flatMap_cons, ← List.append_assoc] at hroom ⊢
      have hfirst : (sent ++ encode text).length ≤ Capacity.defaultMax := by
        rw [List.length_append] at hroom
        omega
      exact ih (h.write hfirst user depth) hroom

end World

end Conduit
