import Conduit.Proofs.Buffer.Queue
import Conduit.Proofs.World.Places

/-!
# A Flush at the Sink

What a flush comes to past the last handler. There the data waits that came with it, in a
container of the pipeline itself, and there are two sinks that it can find. The one of an
embedded channel takes everything over to its transport. The one that a pipeline has
without a channel takes nothing and keeps nothing: what waits is dropped, and the flush
fails. So whichever of them it is, the container is empty when the flush is over, and its
promise has been settled.

Both worlds are written out, because what else has become of them, which is nothing, is
needed as well.

## Main definitions

* `World.flushed`: The world after a flush that a transport has taken.
* `World.refused`: The world after a flush that was refused.

## Theorems

* `Container.Holds.clear`: Once it is cleared, nothing waits in a container.
* `container_flushed`, `container_refused`: What waits in the pipeline afterwards.
* `sinkRequest_flush`: What a transport makes of a flush.
* `sinkRequest_refuse`: What becomes of it without one.
-/

namespace Conduit

/-- Once it is cleared, nothing waits in a container. -/
theorem Container.Holds.clear {c : Container} {bytes : Bytes} {msgs : List Message}
    (h : c.Holds bytes msgs) : c.clear.Holds [] [] := by
  have hclear := h.bytes.waiting.clear
  exact ⟨⟨hclear.sound, hclear.content, rfl, hclear.maxCapacity⟩, rfl⟩

namespace World

variable {σ : Type} {w : World σ} {p : PipelineId} {t : TransportId} {f : PromiseId}
  {bytes more : Bytes} {msgs msgs' : List Message}

/-- The world after a flush: what waited for the sink has come to the transport. -/
def flushed (w : World σ) (p : PipelineId) (t : TransportId) (f : PromiseId)
    (emptied kept : Container) : World σ :=
  ((w.setContainer (.sink p) emptied).updateTransport t fun x =>
    { x with sunk := x.sunk ++ [.flush], outbound := kept }).settled f (.ok ())

theorem container_flushed (w : World σ) (p : PipelineId) (t : TransportId) (f : PromiseId)
    (emptied kept : Container) (place : Place) :
    (w.flushed p t f emptied kept).container place =
      (w.setContainer (.sink p) emptied).container place := by
  cases place <;> rfl

variable [Journal σ]

/-- The world after a flush that was refused: what waited for the sink is gone. -/
def refused (w : World σ) (p : PipelineId) (f : PromiseId) (emptied : Container) : World σ :=
  ((w.setContainer (.sink p) emptied).notice (.notAttached .flush)).settled f
    (.error (.noHandler EventKind.flush.name))

theorem container_refused (w : World σ) (p : PipelineId) (f : PromiseId) (emptied : Container)
    (place : Place) :
    (w.refused p f emptied).container place =
      (w.setContainer (.sink p) emptied).container place := by
  cases place <;> rfl

/-- What waits for the sink comes to the transport with a flush, and the flush is done. -/
theorem sinkRequest_flush (hsink : w.sinkOf p = .embedded t) (hwired : t < w.transports.length)
    (hpassing : (w.container (.sink p)).Holds bytes msgs)
    (hsent : (w.transport t).outbound.Holds more msgs')
    (hroom : (more ++ bytes).length ≤ Capacity.defaultMax) (hnew : w.promise f = {})
    (user : Caller σ → Caller σ) (depth : Nat) :
    ∃ emptied kept, emptied.Holds [] [] ∧ kept.Holds (more ++ bytes) (msgs' ++ msgs) ∧
      w.sinkRequest (respond user (depth + 1)) p ⟨.flush, f⟩ = w.flushed p t f emptied kept := by
  obtain ⟨w₁, hw₁⟩ : ∃ w₁, w₁ =
      w.updateTransport t fun x => { x with sunk := x.sunk ++ [.flush] } := ⟨_, rfl⟩
  have hcontainer : w₁.container (.sink p) = w.container (.sink p) := by
    rw [hw₁]
    rfl
  have hkept : (w₁.transport t).kept .outbound = (w.transport t).outbound := by
    rw [hw₁, transport_updateTransport hwired]
    rfl
  rcases hpassing.transferTo hsent hroom with ⟨emptied, kept, htransfer, hemptied, hfilled⟩
  rw [← hcontainer, ← hkept] at htransfer
  refine ⟨emptied, kept, hemptied, hfilled, ?_⟩
  -- The transport notes the request first, and then takes the data.
  have hdeliver : w₁.deliver (.sink p) t .outbound =
      (w.setContainer (.sink p) emptied).updateTransport t fun x =>
        { x with sunk := x.sunk ++ [.flush], outbound := kept } := by
    rw [deliver, htransfer, hw₁]
    dsimp only
    change ({ w.setContainer (.sink p) emptied with
      transports := (w.transports.modify t _).modify t _ } : World σ) = _
    rw [List.modify_modify_eq]
    rfl
  have hpromise : (w₁.deliver (.sink p) t .outbound).promise f = {} := by
    rw [hdeliver]
    exact hnew
  have hcall : respond user (depth + 1) (.sink p (.embedded t) (.sunk ⟨.flush, f⟩)) w =
      (.ok (), ((w₁.deliver (.sink p) t .outbound).complete (respond user depth) f
        (.ok ())).2) := by
    rw [hw₁]
    rfl
  rw [sinkRequest, hsink]
  dsimp only
  rw [hcall, complete_new _ hpromise, hdeliver]
  rfl

/-- Without a channel what waits is dropped with a flush, and the flush fails. -/
theorem sinkRequest_refuse (hsink : w.sinkOf p = .discarding)
    (hpassing : (w.container (.sink p)).Holds bytes msgs) (hnew : w.promise f = {})
    (user : Caller σ → Caller σ) (depth : Nat) :
    ∃ emptied, emptied.Holds [] [] ∧
      w.sinkRequest (respond user (depth + 1)) p ⟨.flush, f⟩ = w.refused p f emptied := by
  obtain ⟨w₁, hw₁⟩ : ∃ w₁, w₁ =
      (w.updateContainer (.sink p) (·.clear)).notice (.notAttached .flush) := ⟨_, rfl⟩
  have hpromise : w₁.promise f = {} := by
    rw [hw₁]
    exact hnew
  have hcall : respond user (depth + 1) (.sink p .discarding (.sunk ⟨.flush, f⟩)) w =
      (.ok (), (w₁.complete (respond user depth) f
        (.error (.noHandler EventKind.flush.name))).2) := by
    rw [hw₁]
    rfl
  refine ⟨(w.container (.sink p)).clear, hpassing.clear, ?_⟩
  rw [sinkRequest, hsink]
  dsimp only
  rw [hcall, complete_new _ hpromise, hw₁]
  rfl

end World

end Conduit
