import Conduit.Proofs.Buffer.Filling
import Conduit.Proofs.Codec.Handover
import Conduit.Proofs.Codec.RoundTrip

/-!
# Text Both Ways

What the codec for text does with whatever waits for it: frames that are text and frames that
are not, texts, numbers, and loose bytes, in any order.

On the way in the loose bytes count as one more frame behind the messages. Each frame is taken
by itself, so one that is not text costs its neighbours nothing. All that was made goes on
first, and only then the codec reports the first fault that it came across.

On the way out a text is appended to the loose bytes of the next place, and what is no text
joins the messages there, so the two kinds are in order among themselves. The loose bytes of
the codec come behind all texts. What it writes to is a buffer with a ceiling, and a text for
which there is no room left is lost without a word. Nothing is lost if there is room for all
of it together.

## Main definitions

* `TextFrame.waiting`, `TextFrame.report`: The frames of a container, and what is said of them.
* `TextFrame.pieces`, `TextFrame.untouched`: What becomes bytes, and what does not.
* `TextFrame.Encoded`: What the codec makes of two containers on the way out.
* `World.TextRead`, `World.TextWritten`: What comes of an announcement, and of a flush.

## Theorems

* `TextFrame.decode_ok_iff`: A frame is read as the text of which it is the encoding.
* `TextFrame.decodeContainer_eq`: All that waits is taken.
* `TextFrame.report_ok_iff`: Nothing is reported if all frames are text.
* `TextFrame.encodeInto_gained`, `TextFrame.foldl_encodeInto_gained`: One message, and several.
* `TextFrame.encoded`: Texts and loose bytes are appended, as far as there is room.
* `World.textInbound_read`, `World.textOutbound_written`: What the codec does in either
  direction.
* `World.text_handedOn`: The codec is called for data, and for a flush.
* `World.text_handedOn_sampleFrames`: A frame that is not text, and texts with a loose byte.
-/

namespace Conduit

open Utf8

namespace TextFrame

/-- What waits in a container, with the loose bytes as one frame behind the messages. -/
def waiting (c : Container) : List Message :=
  c.messages ++ if c.bytes.isReadable then [.buffer c.bytes] else []

/-- The first fault is reported, if there is one. -/
def report (msgs : List Message) : Outcome :=
  match msgs.findSome? fault? with
  | none => .ok ()
  | some cause => .error cause

/-- The bytes of a message that is text. -/
def spelled : Message → List Bytes
  | .text text => [encode text]
  | _ => []

/-- A message that is not text. -/
def untouched : Message → List Message
  | .text _ => []
  | msg => [msg]

/-- What is to become bytes of another container: the texts and then the loose bytes, each a
    piece of its own. -/
def pieces (c : Container) : List Bytes := c.messages.flatMap spelled ++ [c.bytes.content]

/-- The content of `own` was put behind that of `next`, with its texts as bytes. Of `own` there
    is `left` now, and of `next` there is `filled`. -/
structure Encoded (own next left filled : Container) : Prop where
  bytes : filled.bytes.content =
    next.bytes.content ++ (admitted next.bytes.room (pieces own)).flatten
  messages : filled.messages = next.messages ++ own.messages.flatMap untouched
  queued : left.messages = []
  /-- The loose bytes stay if the texts have not left enough room for them. -/
  kept : left.bytes.content =
    if own.bytes.content.length ≤ next.bytes.room -
      (admitted next.bytes.room (own.messages.flatMap spelled)).flatten.length then []
    else own.bytes.content
  complete : (pieces own).flatten.length ≤ next.bytes.room →
    filled.bytes.content = next.bytes.content ++ (pieces own).flatten ∧ left.isEmpty = true
  sound : left.bytes.buffer.Sound left.bytes.memory ∧
    filled.bytes.buffer.Sound filled.bytes.memory

/-! ### The way in -/

/-- A frame is read as the text of which it is the encoding. -/
theorem decode_ok_iff (frame : Sealed) (text : String) :
    decode frame = .ok text ↔ encode text = frame.content := by
  constructor
  · intro hdecode
    unfold decode Utf8.decode at hdecode
    cases htext : String.fromUTF8? ⟨frame.content.toArray⟩ with
    | none =>
        rw [htext] at hdecode
        exact nomatch hdecode
    | some text' =>
        rw [htext] at hdecode
        injection hdecode with hsame
        subst hsame
        -- A string is nothing but bytes that were found valid.
        unfold String.fromUTF8? at htext
        split at htext
        · injection htext with htext
          subst htext
          rfl
        · exact nomatch htext
  · intro hencode
    rw [decode, ← hencode, decode_encode]

theorem report_ok_iff (msgs : List Message) :
    report msgs = .ok () ↔ ∀ msg ∈ msgs, Legible msg := by
  have hnone : report msgs = .ok () ↔ msgs.findSome? fault? = none := by
    unfold report
    cases msgs.findSome? fault? with
    | none => exact ⟨fun _ => rfl, fun _ => rfl⟩
    | some cause => exact ⟨fun hok => (nomatch hok), fun hnone => (nomatch hnone)⟩
  rw [hnone, List.findSome?_eq_none_iff]
  exact forall₂_congr fun msg _ => fault?_none_iff msg

/-- All that waits in a container is taken, and nothing is left there. -/
theorem decodeContainer_eq (c : Container) :
    ∃ left, decodeContainer c =
      ((waiting c).flatMap reading, (waiting c).findSome? fault?, left) ∧ left.isEmpty = true := by
  unfold decodeContainer Container.drain waiting
  simp only [decodeMessages_eq]
  refine ⟨_, rfl, ?_⟩
  cases hreadable : c.bytes.isReadable with
  | false =>
      rw [if_neg Bool.false_ne_true]
      simp [Container.isEmpty, hreadable]
  | true => rfl

/-! ### The way out -/

variable {c : Container}

/-- A text is appended to the loose bytes if there is room for it, and what is no text joins
    the messages. -/
theorem encodeInto_gained (order : ByteOrder) (h : c.bytes.buffer.Sound c.bytes.memory)
    (msg : Message) :
    c.bytes.Gained (encodeInto order c msg).bytes (admitted c.bytes.room (spelled msg)).flatten ∧
      (encodeInto order c msg).messages = c.messages ++ untouched msg := by
  cases msg with
  | text text =>
      have hgained := Sealed.drainInto_gained h (Sealed.copied order (encode text))
      rw [Sealed.content_copied] at hgained
      exact ⟨hgained, (List.append_nil _).symm⟩
  | buffer _ | u8 _ | u16 _ | u32 _ => exact ⟨Sealed.Gained.refl h, rfl⟩

theorem foldl_encodeInto_gained (order : ByteOrder) (msgs : List Message)
    (h : c.bytes.buffer.Sound c.bytes.memory) :
    c.bytes.Gained (msgs.foldl (encodeInto order) c).bytes
        (admitted c.bytes.room (msgs.flatMap spelled)).flatten ∧
      (msgs.foldl (encodeInto order) c).messages = c.messages ++ msgs.flatMap untouched := by
  induction msgs generalizing c with
  | nil => exact ⟨Sealed.Gained.refl h, (List.append_nil _).symm⟩
  | cons msg msgs ih =>
      rcases encodeInto_gained order h msg with ⟨hfirst, hmessages⟩
      rcases ih hfirst.sound with ⟨hrest, hothers⟩
      have hgained := hfirst.trans hrest
      -- The others find the room that this one has left.
      rw [hfirst.room_eq, ← List.flatten_append, ← admitted_append] at hgained
      rw [List.flatMap_cons, List.flatMap_cons, ← List.append_assoc, ← hmessages]
      exact ⟨hgained, hothers⟩

/-- Texts and loose bytes are appended as far as there is room, and the other messages are
    queued. -/
theorem encoded (order : ByteOrder) {own next : Container}
    (hown : own.bytes.buffer.Sound own.bytes.memory)
    (hnext : next.bytes.buffer.Sound next.bytes.memory) :
    Encoded own next (encodeAll order own next).1 (encodeAll order own next).2 := by
  rcases foldl_encodeInto_gained order own.messages hnext with ⟨htexts, hmessages⟩
  obtain ⟨mid, hmid⟩ : ∃ mid, mid = own.messages.foldl (encodeInto order) next := ⟨_, rfl⟩
  rw [← hmid] at htexts hmessages
  have hleft : (encodeAll order own next).1 =
      { bytes := (own.bytes.drainInto mid.bytes).1.discardReadBytes, messages := [] } := by
    rw [hmid]
    rfl
  have hfilled : (encodeAll order own next).2 =
      { bytes := (own.bytes.drainInto mid.bytes).2, messages := mid.messages ++ [] } := by
    rw [hmid]
    rfl
  -- The loose bytes find the room that the texts have left.
  have hgained := htexts.trans (Sealed.drainInto_gained htexts.sound own.bytes)
  rcases Sealed.drainInto_left htexts.sound hown with ⟨hsound, hkept⟩
  rw [htexts.room_eq, ← List.flatten_append, ← admitted_append] at hgained
  rw [htexts.room_eq] at hkept
  rw [hleft, hfilled]
  refine ⟨hgained.content, ?_, rfl, hkept, fun hroom => ?_, hsound, hgained.sound⟩
  · rw [List.append_nil]
    exact hmessages
  · -- If there is room for all, then there is for the texts, and for the loose bytes after them.
    have hall : admitted next.bytes.room (pieces own) = pieces own := admitted_all hroom
    rw [pieces, List.flatten_append, List.length_append, List.flatten_singleton] at hroom
    have htexts : admitted next.bytes.room (own.messages.flatMap spelled) =
        own.messages.flatMap spelled := admitted_all (by omega)
    rw [htexts, if_pos (by omega)] at hkept
    have hunreadable := (Sealed.isReadable_eq_false_iff hsound).mpr hkept
    refine ⟨hgained.content.trans (by rw [← pieces, hall]), ?_⟩
    simp only [Container.isEmpty, hunreadable]
    rfl

end TextFrame

namespace World

variable {σ : Type} [Journal σ] {w : World σ} {p : PipelineId} {l : Roster} {m : Member}

/-- The codec for text was called because there is data, and this is what has come of it. -/
structure TextRead (w : World σ) (call : Caller σ) (p : PipelineId) (l : Roster) (m : Member)
    (result : Outcome × World σ) : Prop where
  handedOn : ∃ left w₁, left.isEmpty = true ∧ w.HandedOn call p l m left
    ((TextFrame.waiting (w.container (.inbound m.id))).flatMap TextFrame.reading) w₁ result.2
  reported : result.1 = TextFrame.report (TextFrame.waiting (w.container (.inbound m.id)))
  settled : result.1 = .ok () ↔
    ∀ msg ∈ TextFrame.waiting (w.container (.inbound m.id)), TextFrame.Legible msg

/-- The codec for text was called for a flush, and this is what has come of it. -/
def TextWritten (w : World σ) (call : Caller σ) (p : PipelineId) (l : Roster) (m : Member)
    (f : PromiseId) (result : Outcome × World σ) : Prop :=
  ∃ left filled w₁,
    TextFrame.Encoded (w.container (.outbound m.id)) (w.container (w.nextOutbound m.id))
        left filled ∧
      w.Exchanged w₁ p l m .outbound left filled ∧
      result = (.ok (), w₁.requestWith call m.id ⟨.flush, f⟩)

section Called

variable (h : w.Hosts p l) (hready : w.Ready p) (hm : m ∈ l)
include h hready hm

/-- What the codec does when there is data. -/
theorem textInbound_read (call : Caller σ) :
    w.TextRead call p l m (w.textInbound call m.id) := by
  rcases TextFrame.decodeContainer_eq (w.container (.inbound m.id)) with ⟨left, hdecode, hempty⟩
  rcases h.handedOn hready hm call discreet_refl left
    ((TextFrame.waiting (w.container (.inbound m.id))).flatMap TextFrame.reading) with
    ⟨w₁, hhanded⟩
  have hresult : w.textInbound call m.id =
      (TextFrame.report (TextFrame.waiting (w.container (.inbound m.id))),
        (w.setContainer (.inbound m.id) left).handOn call m.id
          ((TextFrame.waiting (w.container (.inbound m.id))).flatMap TextFrame.reading)) := by
    unfold textInbound TextFrame.report
    rw [hdecode]
    dsimp only
    -- What was read is handed on in either case.
    cases (TextFrame.waiting (w.container (.inbound m.id))).findSome? TextFrame.fault? with
    | none => rfl
    | some cause => rfl
  rw [hresult]
  exact ⟨⟨left, w₁, hempty, hhanded⟩, rfl, TextFrame.report_ok_iff _⟩

/-- What the codec does when a flush comes to it. -/
theorem textOutbound_written (call : Caller σ) (order : ByteOrder) (f : PromiseId)
    (hwaiting : (w.container (.outbound m.id)).bytes.buffer.Sound
      (w.container (.outbound m.id)).bytes.memory)
    (hpassing : (w.container (w.nextOutbound m.id)).bytes.buffer.Sound
      (w.container (w.nextOutbound m.id)).bytes.memory) :
    w.TextWritten call p l m f (.ok (), w.textOutbound call m.id order f) := by
  have hencoded := TextFrame.encoded order hwaiting hpassing
  have hexchanged := h.exchange hready hm .outbound discreet_refl
    (TextFrame.encodeAll order (w.container (.outbound m.id))
      (w.container (w.nextOutbound m.id))).1
    (TextFrame.encodeAll order (w.container (.outbound m.id))
      (w.container (w.nextOutbound m.id))).2
  exact ⟨_, _, _, hencoded, hexchanged, rfl⟩

/-- The codec for text, whatever waits for it. What is read as text is what was encoded. The
    codec hands on what it could read, and then reports the first frame that it could not. What
    it is to write it puts behind what waits at the next place, and passes the flush on. -/
theorem text_handedOn (call : Caller σ) (order : ByteOrder)
    (hwaiting : (w.container (.outbound m.id)).bytes.buffer.Sound
      (w.container (.outbound m.id)).bytes.memory)
    (hpassing : (w.container (w.nextOutbound m.id)).bytes.buffer.Sound
      (w.container (w.nextOutbound m.id)).bytes.memory) :
    (∀ frame text, TextFrame.decode frame = .ok text ↔ encode text = frame.content) ∧
      w.TextRead call p l m (w.textCalled call m.id order (.inbound .messageUpdated)) ∧
      ∀ f, w.TextWritten call p l m f (w.textCalled call m.id order (.outbound ⟨.flush, f⟩)) :=
  ⟨TextFrame.decode_ok_iff, textInbound_read h hready hm call,
    fun f => textOutbound_written h hready hm call order f hwaiting hpassing⟩

end Called

/-- Two frames of which the first is not text, between messages that are no frames. The loose
    byte is not text either. -/
def sampleFrames : Container where
  bytes := .copied .big [0xc3]
  messages :=
    [.text "a", .buffer (.ofBytes .big [0xff]), .buffer (.ofBytes .big [0x6f, 0x6b]), .u8 7]

/-- Two texts, and a number between them. -/
def sampleTexts : Container where
  bytes := .copied .big [0x63]
  messages := [.text "a", .u8 5, .text "b"]

/-- The neighbours of a frame that is not text go on, and it is the one that is reported. The
    texts are written to the transport before the loose byte. -/
theorem text_handedOn_sampleFrames :
    let w := (sampleWriter.setContainer (.inbound 0) sampleFrames).setContainer (.outbound 0)
      sampleTexts
    let call := respond (fun _ _ (w : World (List Notice)) => (.ok (), w)) 1
    (∃ w₁ w₂ : World (List Notice),
      w.textCalled call 0 .big (.inbound .messageUpdated) =
        (.error (.decode (.notText ⟨0, some 1⟩)), w₂) ∧
      (w₁.container (.inbound 1)).messages = [.text "a", .text "ok", .u8 7] ∧
      w₂ = w₁.brought call 0 ⟨1, Handler.collectorName, .inbound⟩ .messageUpdated) ∧
    ∃ w₁ : World (List Notice),
      (w₁.container (.sink 0)).bytes.content = [0x61, 0x62, 0x63] ∧
      (w₁.container (.sink 0)).messages = [.u8 5] ∧
      (w₁.container (.outbound 0)).isEmpty = true ∧
      w.textCalled call 0 .big (.outbound ⟨.flush, 0⟩) =
        (.ok (), w₁.requestWith call 0 ⟨.flush, 0⟩) := by
  intro w call
  have hhosts := (sampleWriter_writing.hosts.setContainer (.inbound 0) sampleFrames).setContainer
    (.outbound 0) sampleTexts
  have hready := (sampleWriter_writing.ready.setContainer (.inbound 0) sampleFrames).setContainer
    (.outbound 0) sampleTexts
  have hwaiting : sampleTexts.bytes.buffer.Sound sampleTexts.bytes.memory :=
    (Buffer.Sound.ofBytes {} .big #[0x63] (by decide) (by decide)).1
  -- Nobody stands in front of the codec, so what it writes waits for the sink.
  have hnext : w.nextOutbound 0 = .sink 0 := by decide
  have hnothing : (w.container (w.nextOutbound 0)).Holds [] [] := by
    rw [hnext]
    exact holds_sampleChannel _ (.sink 0)
  rcases text_handedOn (m := ⟨0, "text", TextFrame.events⟩) hhosts hready (by decide) call .big
    hwaiting hnothing.bytes.sound with ⟨-, hread, hwritten⟩
  constructor
  · obtain ⟨result, hresult⟩ : ∃ result, result =
        w.textCalled call 0 .big (.inbound .messageUpdated) := ⟨_, rfl⟩
    change w.TextRead call 0 _ _ (w.textCalled call 0 .big (.inbound .messageUpdated)) at hread
    rw [← hresult] at hread ⊢
    rcases hread.handedOn with ⟨left, w₁, -, hhanded⟩
    -- The second of four frames is not text, and neither is the loose byte.
    have hpassed : (TextFrame.waiting sampleFrames).flatMap TextFrame.reading =
        [.text "a", .text "ok", .u8 7] := rfl
    have hreported : result.1 = .error (.decode (.notText ⟨0, some 1⟩)) := hread.reported
    change w.HandedOn _ _ _ _ _ ((TextFrame.waiting sampleFrames).flatMap TextFrame.reading) _ _
      at hhanded
    rw [hpassed] at hhanded
    rcases hhanded.heard (List.cons_ne_nil _ _) ⟨1, Handler.collectorName, .inbound⟩ [] (by decide)
      with ⟨hthere, hbrought⟩
    refine ⟨w₁, result.2, Prod.ext hreported rfl, ?_, hbrought⟩
    have hfilled := hhanded.exchanged.next
    change w₁.container (w.nextInbound 0) = _ at hfilled
    rw [hthere] at hfilled
    rw [hfilled]
    rfl
  · rcases hwritten 0 with ⟨left, filled, w₁, hencoded, hexchanged, hresult⟩
    -- Both texts are encoded, and the byte that was loose already comes behind them.
    have hpieces : (TextFrame.pieces sampleTexts).flatten = [0x61, 0x62, 0x63] := by decide +kernel
    have hroom : (TextFrame.pieces sampleTexts).flatten.length ≤
        (w.container (w.nextOutbound 0)).bytes.room := by
      rw [hpieces, hnext]
      decide
    rcases hencoded.complete hroom with ⟨hcontent, hempty⟩
    change filled.bytes.content = _ ++ (TextFrame.pieces sampleTexts).flatten at hcontent
    have hmessages := hencoded.messages
    rw [hnothing.bytes.content, hpieces] at hcontent
    rw [hnothing.messages] at hmessages
    have hfilled := hexchanged.next
    change w₁.container (w.nextOutbound 0) = filled at hfilled
    rw [hnext] at hfilled
    refine ⟨w₁, ?_, ?_, hexchanged.own ▸ hempty, hresult⟩
    · rw [hfilled, hcontent]
      rfl
    · rw [hfilled, hmessages]
      rfl

end World

end Conduit
