import Conduit.Proofs.Codec.Handover
import Conduit.Proofs.Codec.Stream
import Conduit.Proofs.Framing.Views

/-!
# Codecs Around Any Decoder

A codec that is called when data has arrived, or when the channel goes inactive, makes one
round of its decoder. What was queued for it goes on first, and then the messages of the
round, also those that were decoded before a failure. The failure is reported by the codec
when all of that is on its way, and what the decoder has not used stays.

A round that panics is another matter. It tears down what was queued together with what was
decoded, and the end of the stream goes no further either. Only a decoder that returns can
be relied on for what was queued beside its bytes.

The state of the decoder is stored before anything is announced, because the announcement
may come back to it. Where it is stored is up to the codec, as long as it is done discreetly.

## Main definitions

* `Decoding.leftover`: What a codec leaves in its container.

## Theorems

* `discreet_keepFramer`: The codec for lines stores its framer discreetly.
* `decodeLoose_eq`, `decoderCalled_eq`: A round and a call, written out.
* `decodeLoose_handedOn`: A round, and what comes of it.
* `decoder_handedOn`: What a codec does that is called for data, or at the end of the stream.
* `decoder_handedOn_sampleMixed`: Something that was queued, and a line that is too long.
* `views_overwritten`: What becomes of views when the bytes they show are moved.
-/

namespace Conduit

variable {σ δ : Type}

namespace World

/-- The codec for lines stores its framer discreetly. -/
theorem discreet_keepFramer (c : ContextId) (framer : LineFramer) :
    Discreet (keepFramer c framer : World σ → World σ) :=
  discreet_updateContext (fun _ => ⟨.lines framer, rfl⟩) c

variable [Journal σ] {w : World σ} {p : PipelineId} {l : Roster} {m : Member}
  {keep : δ → World σ → World σ}

/-- A round is made of what waits. What it leaves is put back, what it has noticed and what the
    decoder remembers are written down, and then its messages are handed on if it returns. -/
theorem decodeLoose_eq (w : World σ) (call : Caller σ) (c : ContextId) (d : Decoder δ) (state : δ)
    (keep : δ → World σ → World σ) (atEnd : Bool) :
    let own := w.container (.inbound c)
    let r := d.decodeAll atEnd state own.bytes
    let kept := keep r.state (r.notices.foldl notice (w.setContainer (.inbound c) r.leftover))
    w.decodeLoose call c d state keep atEnd = (r.ending,
      match r.ending with
      | .panicked _ => kept
      | _ => kept.handOn call c (own.messages ++ r.messages)) := by
  intro own r kept
  unfold decodeLoose Container.drain
  dsimp only
  cases r.ending <;> rfl

/-- What a round finds is handed on, unless the round panics, and then nothing is. -/
theorem decodeLoose_handedOn (h : w.Hosts p l) (hready : w.Ready p) (hm : m ∈ l)
    (hkeep : ∀ state, Discreet (keep state)) (call : Caller σ) (d : Decoder δ) (state : δ)
    (atEnd : Bool) :
    let own := w.container (.inbound m.id)
    let r := d.decodeAll atEnd state own.bytes
    let result := w.decodeLoose call m.id d state keep atEnd
    result.1 = r.ending ∧
      match r.ending with
      | .panicked _ =>
        w.Exchanged result.2 p l m .inbound r.leftover (w.container (w.nextInbound m.id))
      | _ => ∃ w₁, w.HandedOn call p l m r.leftover (own.messages ++ r.messages) w₁ result.2 := by
  intro own r result
  have hresult : result = w.decodeLoose call m.id d state keep atEnd := rfl
  have hdiscreet : Discreet fun w : World σ => keep r.state (r.notices.foldl notice w) :=
    (hkeep r.state).comp (discreet_notices r.notices)
  have hhanded := h.handedOn hready hm call hdiscreet r.leftover (own.messages ++ r.messages)
  rw [decodeLoose_eq] at hresult
  rw [hresult]
  refine ⟨rfl, ?_⟩
  dsimp only
  -- Only a panic keeps the messages from being handed on.
  cases r.ending with
  | done => exact hhanded
  | failed cause => exact hhanded
  | panicked cause => exact h.withdraw hready hm .inbound hdiscreet r.leftover

/-- A codec that is called makes a round. At the end of the stream it passes that event on, if
    the round returns. -/
theorem decoderCalled_eq (w : World σ) (call : Caller σ) (c : ContextId) (d : Decoder δ)
    (state : δ) (keep : δ → World σ → World σ) (atEnd : Bool) :
    w.decoderCalled call c d state keep
        (.inbound (if atEnd then .channelInactive else .messageUpdated)) =
      match w.decodeLoose call c d state keep atEnd with
      | (.panicked cause, w) => (.error cause, w)
      | (ending, w) =>
        (ending.outcome, if atEnd then w.fireFrom call c .channelInactive else w) := by
  cases atEnd with
  | false =>
      change w.decodeInbound call c d state keep = _
      unfold decodeInbound
      rcases w.decodeLoose call c d state keep false with ⟨ending, w⟩
      cases ending <;> rfl
  | true =>
      change w.decodeRest call c d state keep = _
      unfold decodeRest
      rcases w.decodeLoose call c d state keep true with ⟨ending, w⟩
      cases ending <;> rfl

/-- What a codec does that is called when data has arrived, or when the channel goes inactive. It
    makes one round, of no more calls than there are bytes. What was queued and what the round
    has found is handed on, whether the round has failed or not, and at the end of the stream
    that event follows. The codec then reports how the round has ended. Views are handed on when
    the round is over, and show what stands in memory then. -/
theorem decoder_handedOn {d : Decoder δ} (hd : d.Forward) (h : w.Hosts p l) (hready : w.Ready p)
    (hm : m ∈ l) (hkeep : ∀ state, Discreet (keep state))
    (hvalid : (w.container (.inbound m.id)).bytes.buffer.Valid) (call : Caller σ) (state : δ)
    (atEnd : Bool) :
    let own := w.container (.inbound m.id)
    let r := d.decodeAll atEnd state own.bytes
    let result := w.decoderCalled call m.id d state keep
      (.inbound (if atEnd then .channelInactive else .messageUpdated))
    (∃ trials, d.Comes atEnd state own.bytes trials r ∧ d.Delivers trials r) ∧
      match r.ending with
      | .panicked cause => result.1 = .error cause ∧
        w.Exchanged result.2 p l m .inbound r.leftover (w.container (w.nextInbound m.id))
      | ending => ∃ w₁ w₂,
        w.HandedOn call p l m r.leftover (own.messages ++ r.messages) w₁ w₂ ∧
          result = (ending.outcome,
            if atEnd then w₂.fireFrom call m.id .channelInactive else w₂) := by
  intro own r result
  rcases Decoder.decodeAll_comes hd hvalid atEnd state with ⟨trials, hcomes⟩
  refine ⟨⟨trials, hcomes, hcomes.delivers⟩, ?_⟩
  have hround := decodeLoose_handedOn h hready hm hkeep call d state atEnd
  have hresult := decoderCalled_eq w call m.id d state keep atEnd
  rcases hloose : w.decodeLoose call m.id d state keep atEnd with ⟨ending, w₂⟩
  -- The result of the round is named once, for what is known of it and for what it leads to.
  simp only [hloose] at hround
  rw [hloose] at hresult
  change result = _ at hresult
  rcases hround with ⟨hending, hround⟩
  have hr : r.ending = ending := hending.symm
  rw [← hending] at hround
  rw [hr]
  -- The end of the stream is passed on behind what was handed on.
  cases ending with
  | done =>
      rcases hround with ⟨w₁, hhanded⟩
      exact ⟨w₁, w₂, hhanded, hresult⟩
  | failed cause =>
      rcases hround with ⟨w₁, hhanded⟩
      exact ⟨w₁, w₂, hhanded, hresult⟩
  | panicked cause =>
      rw [hresult]
      exact ⟨rfl, hround⟩

/-- A number that was queued, and a line that is too long between two that are not. -/
def sampleMixed : Container where
  bytes := .copied .big
    [0x6f, 0x6b, 0x0a, 0x74, 0x6f, 0x6f, 0x6c, 0x6f, 0x6e, 0x67, 0x0a, 0x61, 0x0a]
  messages := [.u8 7]

/-- The number goes on and then the first line, and the codec reports the second one. -/
theorem decoder_handedOn_sampleMixed :
    let w := sampleStream.setContainer (.inbound 0) sampleMixed
    let call := respond (fun _ _ (w : World (List Notice)) => (.ok (), w)) 1
    ∃ w₁ w₂ : World (List Notice),
      w.decoderCalled call 0 Decoder.lines { maxLength := 4, strip := true, terminator := .newline }
        (keepFramer 0) (.inbound .messageUpdated) = (.error (.decode (.overLong 7 4)), w₂) ∧
      (w₁.container (.inbound 1)).messages = [.u8 7, .buffer (.ofBytes .big [0x6f, 0x6b])] ∧
      w₂ = w₁.brought call 0 ⟨1, Handler.collectorName, .inbound⟩ .messageUpdated := by
  intro w call
  have hhosts := sampleStream_collecting.hosts.setContainer (.inbound 0) sampleMixed
  have hready := sampleStream_collecting.ready.setContainer (.inbound 0) sampleMixed
  have hvalid : (w.container (.inbound 0)).bytes.buffer.Valid :=
    ⟨by decide, by decide, by decide⟩
  have hhanded := (decoder_handedOn (m := ⟨0, "framer", Decoder.events⟩) Decoder.lines_forward
    hhosts hready (by decide) (discreet_keepFramer 0) hvalid call
    { maxLength := 4, strip := true, terminator := .newline } false).2
  -- The round fails at the second line, with the first one found.
  rcases hhanded with ⟨w₁, w₂, hhanded, hresult⟩
  rcases hhanded.heard (List.cons_ne_nil _ _) ⟨1, Handler.collectorName, .inbound⟩ [] (by decide)
    with ⟨hnext, hbrought⟩
  refine ⟨w₁, w₂, hresult, ?_, hbrought⟩
  have hfilled := hhanded.exchanged.next
  change w₁.container (w.nextInbound 0) = _ at hfilled
  rw [hnext] at hfilled
  rw [hfilled]
  rfl

/-- The five bytes of one chunk. -/
def sampleLetters : Container where
  bytes := .copied .big [0x61, 0x62, 0x63, 0x64, 0x65]

/-- Two views were returned, of the first two bytes and of the next two. The fifth is left, so
    it has been moved to the front when they come to the next handler, and the first view shows
    it. -/
theorem views_overwritten :
    let w := sampleStream.setContainer (.inbound 0) sampleLetters
    let call := respond (fun _ _ (w : World (List Notice)) => (.ok (), w)) 1
    Decoder.pairViews.Forward ∧ Decoder.pairViews.Quiet ∧ (w.container (.inbound 0)).messages = [] ∧
      ∃ trials, Decoder.pairViews.Comes false () sampleLetters.bytes trials
          (Decoder.pairViews.decodeAll false () sampleLetters.bytes) ∧
        (trials.filterMap Trial.returned?).map Message.content? =
          [some [0x61, 0x62], some [0x63, 0x64]] ∧
        ∃ w₁ w₂ : World (List Notice),
          w.decoderCalled call 0 Decoder.pairViews () (fun _ w => w) (.inbound .messageUpdated) =
            (.ok (), w₂) ∧
          w₂ = w₁.brought call 0 ⟨1, Handler.collectorName, .inbound⟩ .messageUpdated ∧
          (w₁.container (.inbound 1)).messages.map Message.content? =
            [some [0x65, 0x62], some [0x63, 0x64]] := by
  intro w call
  have hhosts := sampleStream_collecting.hosts.setContainer (.inbound 0) sampleLetters
  have hready := sampleStream_collecting.ready.setContainer (.inbound 0) sampleLetters
  have hvalid : sampleLetters.bytes.buffer.Valid := ⟨by decide, by decide, by decide⟩
  refine ⟨Decoder.pairViews_forward, Decoder.pairViews_quiet, rfl, ?_⟩
  rcases Decoder.decodeAll_comes Decoder.pairViews_forward hvalid false () with ⟨trials, hcomes⟩
  -- Two calls cut a view each, and the third finds one byte.
  have htrials := hcomes.only _ _ _ _ (.goesOn rfl rfl (.goesOn rfl rfl (.ended rfl rfl)))
  have hround := decodeLoose_handedOn (m := ⟨0, "framer", Decoder.events⟩) hhosts hready (by decide)
    (fun _ => discreet_refl) call Decoder.pairViews () false
  rcases hround.2 with ⟨w₁, hhanded⟩
  rcases hhanded.heard (List.cons_ne_nil _ _) ⟨1, Handler.collectorName, .inbound⟩ [] (by decide)
    with ⟨hnext, hbrought⟩
  refine ⟨trials, hcomes, by rw [← htrials]; decide, w₁, _, rfl, hbrought, ?_⟩
  have hfilled := hhanded.exchanged.next
  change w₁.container (w.nextInbound 0) = _ at hfilled
  rw [hnext] at hfilled
  rw [hfilled]
  decide

end World

end Conduit
