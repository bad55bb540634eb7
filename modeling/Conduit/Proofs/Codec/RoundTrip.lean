import Conduit.Proofs.Codec.Stream
import Conduit.Proofs.Codec.Text
import Conduit.Proofs.Codec.Writing

/-!
# Text There and Back

Text that is written line by line, and read again at the other end. In between it is a
stream of bytes, which may be cut anywhere, also within a character or at a line feed.

The bytes of a character past ASCII are not looked at by anyone on the way, so the
lines of the stream are the encodings of the texts again, all of them short enough,
and none of them ends in a carriage return that a cut could sever. The codec for lines
is therefore never behind, and the codec for text gets what it can read.

## Main definitions

* `World.Reading`: A channel that text can be read from.
* `World.Drained`: Nothing is left anywhere.
* `World.takeTexts`: Reading, so many times.

## Theorems

* `reading_frame`: The line of a text comes out as the text.
* `takeTexts_eq`: What has come is taken, and then there is nothing.
* `Reading.receiveAll`: What comes of the bytes of texts.
* `read_written`: What was written is what is read.
* `sampleWriter_writing`, `sampleReader_reading`: Two channels that are made for each other.
* `read_written_sample`: A text that is empty, and one that is cut in two on its way.
-/

namespace Conduit

open Terminator Utf8

namespace LineFramer

/-- The line that the encoding of a text is. -/
def ofText (text : String) : Line := ⟨encode text, [lineFeed]⟩

/-- Where lines come without their ending, that of a text comes out as the text. -/
theorem reading_frame {f : LineFramer} (hstrip : f.strip = true) (order : ByteOrder)
    (text : String) :
    TextFrame.Legible (f.frame order (ofText text)) ∧
      TextFrame.reading (f.frame order (ofText text)) = [.text text] := by
  have hframe : f.frame order (ofText text) = .buffer (Sealed.ofBytes order (encode text)) := by
    rw [frame, trim, if_pos hstrip]
    rfl
  have hdecode : TextFrame.decode (Sealed.ofBytes order (encode text)) = .ok text := by
    rw [TextFrame.decode, Sealed.content_ofBytes, decode_encode]
  rw [hframe]
  refine ⟨⟨text, hdecode⟩, ?_⟩
  simp only [TextFrame.reading, hdecode]

end LineFramer

namespace World

variable {σ : Type} {w : World σ} {p : PipelineId} {m s x : Member} {t : TransportId}
  {f : LineFramer} {order : ByteOrder} {still : Place → Prop}

/-- A transport has nothing any more, and of the places of which `still` is true none has. -/
structure Drained (w : World σ) (t : TransportId) (still : Place → Prop) : Prop where
  inbound : (w.transport t).inbound.isEmpty = true
  outbound : (w.transport t).outbound.isEmpty = true
  places : ∀ place, still place → (w.container place).isEmpty = true

/-- The pipeline of an active channel makes lines of bytes and text of lines, and nothing has
    come in yet. -/
structure Reading (w : World σ) (p : PipelineId) (m s x : Member) (t : TransportId)
    (f : LineFramer) (order : ByteOrder) (still : Place → Prop) : Prop where
  relaying : w.Relaying p m s x t order still
  fresh : w.Fresh m.id f
  untroubled : w.Untroubled t
  active : (w.pipeline p).activation.active = true
  lines : m.events = Decoder.events
  text : s.events = TextFrame.events

/-! ### Taking text -/

/-- Takes text from a transport so many times. -/
def takeTexts (w : World σ) (t : TransportId) : Nat → List (Option Message) × World σ
  | 0 => ([], w)
  | n + 1 =>
    let first := w.take t .inbound .text
    let others := takeTexts first.2 t n
    (first.1 :: others.1, others.2)

/-- All texts that have come are taken, in order, and then there is nothing. -/
theorem takeTexts_eq {texts : List String} (hwired : t < w.transports.length)
    (h : (w.transport t).inbound.messages = texts.map .text) :
    let taken := w.takeTexts t (texts.length + 1)
    taken.1 = texts.map (fun text => some (.text text)) ++ [none] ∧
      taken.2.transport t = { w.transport t with
        inbound := { (w.transport t).inbound with messages := [] } } ∧
      ∀ place, taken.2.container place = w.container place := by
  induction texts generalizing w with
  | nil =>
      intro taken
      have htake : w.take t .inbound .text =
          (none, w.updateTransport t (·.keep .inbound (w.transport t).inbound)) := by
        rw [take, Transport.kept, Container.popAs, h]
        rfl
      have htaken : taken = ([none], w.updateTransport t
          (·.keep .inbound (w.transport t).inbound)) := by
        change ((w.take t .inbound .text).1 :: _, _) = _
        rw [htake]
        rfl
      rw [htaken]
      refine ⟨rfl, ?_, fun place => by cases place <;> rfl⟩
      have hmessages : { (w.transport t).inbound with messages := [] } =
          (w.transport t).inbound := by
        rw [List.map_nil] at h
        rw [← h]
      rw [transport_updateTransport hwired, hmessages]
      rfl
  | cons text texts ih =>
      intro taken
      obtain ⟨rest, hrest⟩ : ∃ rest : Container,
          rest = { (w.transport t).inbound with messages := texts.map .text } := ⟨_, rfl⟩
      obtain ⟨w₁, hw₁⟩ : ∃ w₁, w₁ = w.updateTransport t (·.keep .inbound rest) := ⟨_, rfl⟩
      have htake : w.take t .inbound .text = (some (.text text), w₁) := by
        rw [List.map_cons] at h
        rw [take, Transport.kept, Container.popAs, h, hw₁, hrest]
        rfl
      have htransport : w₁.transport t = { w.transport t with inbound := rest } := by
        rw [hw₁]
        exact transport_updateTransport hwired _
      have hwired₁ : t < w₁.transports.length := by
        rw [hw₁, length_updateTransport]
        exact hwired
      have hmessages : (w₁.transport t).inbound.messages = texts.map .text := by
        rw [htransport, hrest]
      rcases ih hwired₁ hmessages with ⟨hothers, hfinal, hplaces⟩
      -- The first text is taken, and the others are taken of what is left, by induction.
      have htaken : taken = (some (.text text) :: (w₁.takeTexts t (texts.length + 1)).1,
          (w₁.takeTexts t (texts.length + 1)).2) := by
        change ((w.take t .inbound .text).1 :: ((w.take t .inbound .text).2.takeTexts t _).1, _) = _
        rw [htake]
        rfl
      rw [htaken]
      refine ⟨congrArg (some (.text text) :: ·) hothers, ?_, fun place => ?_⟩
      · rw [hfinal, htransport, hrest]
      · rw [hplaces place, hw₁]
        cases place <;> rfl

/-! ### Reading -/

/-- The bytes of texts come in, whatever the chunks: the texts come out, and that is all. -/
theorem Reading.receiveAll [Journal σ] (h : w.Reading p m s x t f order still)
    (hterminator : f.terminator = .both) (hstrip : f.strip = true) {texts : List String}
    (htexts : ∀ text ∈ texts, IsLine text ∧ (encode text).length ≤ f.maxLength)
    (hroom : (terminated texts).length ≤ Capacity.defaultMax) {chunks : List Sealed}
    (hchunks : (chunks.map Sealed.content).flatten = terminated texts)
    (user : Caller σ → Caller σ) (depth : Nat) :
    let w' := w.receiveAll (respond user (depth + 3)) p chunks
    w'.Relaying p m s x t order still ∧ (w'.context m.id).inbound.Holds [] [] ∧
      (w'.transport t).inbound.messages = texts.map .text ∧ (w'.transport t).exceptions = [] := by
  intro w'
  -- The lines of the stream are the texts, each with nothing but a line feed behind it.
  have hcut : both.cut [] (chunks.map Sealed.content).flatten =
      (texts.map LineFramer.ofText, []) := by
    rw [hchunks]
    exact cut_terminated fun text htext => (htexts text htext).1
  have hendings : ∀ l ∈ (both.cut [] (chunks.map Sealed.content).flatten).1,
      l.ending = [lineFeed] := by
    intro l hl
    rw [hcut] at hl
    rcases List.mem_map.mp hl with ⟨text, -, rfl⟩
    rfl
  have hfits : ∀ l ∈ texts.map LineFramer.ofText, f.fits l = true := by
    intro l hl
    rcases List.mem_map.mp hl with ⟨text, htext, rfl⟩
    exact decide_eq_true (htexts text htext).2
  -- So none of them is too long, and none has an ending that a cut could sever.
  have hintact : both.Intact f.maxLength [] (chunks.map Sealed.content) :=
    intact_of_endings hendings
  rw [← hterminator] at hintact
  have hfaithful : (Watch.text σ p m s x t order still).Faithful user (depth + 2) p m [s, x] :=
    text_faithful user depth (by rw [h.lines]; rfl) h.text
  have hroom' : (([] : List Line).flatMap Line.bytes ++ ([] : Bytes) ++
      (chunks.map Sealed.content).flatten).length ≤ Capacity.defaultMax := by
    rw [hchunks]
    exact hroom
  have hstream := stream_reads (f := f) hfaithful h.lines h.relaying h.fresh.reads.1
    h.fresh.reads.2 h.active hintact hroom'
  rw [hterminator] at hstream
  have heach := both.cutEach_flatten [] (chunks.map Sealed.content)
  rw [hcut] at heach
  have hlines : (both.cutEach [] (chunks.map Sealed.content)).1.flatten =
      texts.map LineFramer.ofText := (congrArg Prod.fst heach).symm
  have hleft : (both.cutEach [] (chunks.map Sealed.content)).2 = [] :=
    (congrArg Prod.snd heach).symm
  -- Without long lines the codec gets to every line as it comes.
  have hnone : f.unread [] (both.cutEach [] (chunks.map Sealed.content)).1 = [] :=
    LineFramer.unread_eq_nil_of_fits (by rw [hlines]; exact hfits)
  rcases hstream (by
    intro l hl _
    rw [List.nil_append, hlines] at hl
    rcases List.mem_map.mp hl with ⟨text, -, rfl⟩
    exact (f.reading_frame hstrip _ text).1) with ⟨read, hread, hdelivered, hcalm, hreads, htidy⟩
  rw [hnone, hlines, List.nil_append, List.append_nil] at hread
  rw [hnone, hleft] at hreads
  rw [← hread] at hdelivered
  refine ⟨hcalm, ?_, ?_, ?_⟩
  · rcases hreads.owes with ⟨g, -, -, howes⟩
    have hcontent := (howes.content_eq (Nat.zero_le _)).1
    exact ⟨⟨hreads.sound, hcontent, htidy, hreads.maxCapacity⟩, hreads.messages⟩
  · have hreceived : (w'.transport t).inbound.messages = _ := hdelivered.received
    have hall : (texts.map LineFramer.ofText).filter f.fits = texts.map LineFramer.ofText :=
      List.filter_eq_self.mpr hfits
    have hread' : ((texts.map LineFramer.ofText).map
        (f.frame (w.context m.id).inbound.bytes.order)).flatMap TextFrame.reading =
        texts.map .text := by
      have hsame : (fun text => TextFrame.reading (f.frame (w.context m.id).inbound.bytes.order
          (LineFramer.ofText text))) = fun text => [.text text] :=
        funext fun text => (f.reading_frame hstrip _ text).2
      rw [List.map_map, List.flatMap_map, List.map_eq_flatMap]
      exact congrArg texts.flatMap hsame
    rw [hreceived, hall]
    change (w.transport t).inbound.messages ++ _ = _
    rw [h.untroubled.1.messages, List.nil_append]
    exact hread'
  · have hraised : (w'.transport t).exceptions.map Error.unwrapped = _ := hdelivered.raised
    have hlong : (texts.map LineFramer.ofText).filter (!f.fits ·) = [] := by
      rw [List.filter_eq_nil_iff]
      intro l hl
      rw [hfits l hl]
      simp
    rw [hlong, List.map_nil, List.append_nil] at hraised
    change _ = (w.transport t).exceptions.map Error.unwrapped at hraised
    rw [h.untroubled.2, List.map_nil, List.map_eq_nil_iff] at hraised
    exact hraised

/-- Texts without a line feed, and without a carriage return at the end, are written to one
    channel, each with a line feed behind it. However the bytes are cut into chunks that come in
    at the other, where lines may be as long as they are, the texts are read there, in order, and
    nothing after them. Nothing has failed, and nothing is left in either channel. -/
theorem read_written {σ τ : Type} [Journal σ] [Journal τ] {w : World σ} {v : World τ}
    {p q : PipelineId} {l : Roster} {c m s x : Member} {t u : TransportId} {f : LineFramer}
    {order order' : ByteOrder} {still still' : Place → Prop}
    (hw : w.Writing p l c t order still []) (hv : v.Reading q m s x u f order' still')
    (hterminator : f.terminator = .both) (hstrip : f.strip = true) {texts : List String}
    (htexts : ∀ text ∈ texts, IsLine text ∧ (encode text).length ≤ f.maxLength)
    (hroom : (terminated texts).length ≤ Capacity.defaultMax)
    (user : Caller σ → Caller σ) (user' : Caller τ → Caller τ) (depth depth' : Nat) :
    let written := (w.writeAll (respond user (depth + 2)) p (texts.map (· ++ "\n"))).takeBytes t
      .outbound
    ((written.2.transport t).exceptions = [] ∧ written.2.Drained t still) ∧
      ∀ chunks : List Sealed, (chunks.map Sealed.content).flatten = written.1.content →
        let read := (v.receiveAll (respond user' (depth' + 3)) q chunks).takeTexts u
          (texts.length + 1)
        read.1 = texts.map (fun text => some (.text text)) ++ [none] ∧
          (read.2.transport u).exceptions = [] ∧ read.2.Drained u still' := by
  intro written
  -- What is written is what the reader takes for lines, so the two halves fit together.
  have hbytes : (texts.map (· ++ "\n")).flatMap encode = terminated texts := by
    rw [List.flatMap_map]
    rfl
  have hall : ([] ++ (texts.map (· ++ "\n")).flatMap encode).length ≤ Capacity.defaultMax := by
    rw [hbytes, List.nil_append]
    exact hroom
  have hwritten := hw.writeAll hall user depth
  rw [hbytes, List.nil_append] at hwritten
  rcases hwritten.takeBytes with ⟨hcontent, hemptied⟩
  refine ⟨⟨hemptied.untroubled.2, hemptied.untroubled.1.isEmpty, hemptied.sent.isEmpty,
    fun place hplace => (hemptied.empty place hplace).isEmpty⟩, fun chunks hchunks => ?_⟩
  intro read
  rw [hcontent] at hchunks
  rcases hv.receiveAll hterminator hstrip htexts hroom hchunks user' depth' with
    ⟨hrelaying, hhead, hmessages, hexceptions⟩
  rcases takeTexts_eq hrelaying.collecting.wired hmessages with ⟨htaken, htransport, hplaces⟩
  refine ⟨htaken, ?_, ?_, ?_, fun place hplace => ?_⟩
  · rw [htransport]
    exact hexceptions
  · rw [htransport]
    exact Container.Holds.isEmpty ⟨hrelaying.collecting.kept, rfl⟩
  · rw [htransport]
    exact hrelaying.unsent.isEmpty
  · rw [hplaces place]
    by_cases hm : place = .inbound m.id
    · rw [hm]
      exact hhead.isEmpty
    · exact (hrelaying.empty place hplace hm).isEmpty

/-- A codec for text. -/
def sampleText : Handler where
  typeName := TextFrame.handlerType
  events := TextFrame.events
  role := .text .big

/-- A channel to write text to. -/
def sampleWriter : World (List Notice) :=
  sampleChannel [("text", sampleText), (Handler.collectorName, Handler.collector 0)]

/-- A channel to read lines of text from, of at most four bytes each. -/
def sampleReader : World (List Notice) :=
  sampleChannel [("framer", sampleFramer { maxLength := 4, strip := true, terminator := .both }),
    ("text", sampleText), (Handler.collectorName, Handler.collector 0)]

theorem sampleWriter_writing :
    sampleWriter.Writing 0 [⟨0, "text", TextFrame.events⟩, ⟨1, Handler.collectorName, .inbound⟩]
      ⟨0, "text", TextFrame.events⟩ 0 .big (fun _ => True) [] where
  hosts :=
    { holds := (Chain.run_agrees _ {} [] Chain.empty_holds (by decide)).1
      known := by decide
      pipeline := by decide
      name := by decide
      events := by decide
      linked := by decide }
  ready := ⟨rfl, rfl⟩
  flushes := by decide
  role := rfl
  sink := rfl
  wired := by decide
  waiting := Container.holds_new
  passing := Container.holds_new
  sent := Container.holds_new
  untroubled := ⟨Container.holds_new, rfl⟩
  empty := fun place _ => holds_sampleChannel _ place

theorem sampleReader_reading :
    sampleReader.Reading 0 ⟨0, "framer", Decoder.events⟩ ⟨1, "text", TextFrame.events⟩
      ⟨2, Handler.collectorName, .inbound⟩ 0
      { maxLength := 4, strip := true, terminator := .both } .big (fun _ => True) where
  relaying :=
    { collecting :=
        { hosts :=
            { holds := (Chain.run_agrees _ {} [] Chain.empty_holds (by decide)).1
              known := by decide
              pipeline := by decide
              name := by decide
              events := by decide
              linked := by decide }
          ready := ⟨rfl, rfl⟩
          mem := by decide
          handler := rfl
          wired := by decide
          waiting := Container.holds_new
          kept := Container.holds_new.bytes }
      role := rfl
      waiting := Container.holds_new
      unsent := Container.holds_new
      empty := fun place _ _ => holds_sampleChannel _ place }
  fresh := ⟨rfl, ⟨rfl, rfl⟩, Container.holds_new⟩
  untroubled := ⟨Container.holds_new, rfl⟩
  active := rfl
  lines := rfl
  text := rfl

/-- An empty text, and one whose only character is cut in two. -/
theorem read_written_sample :
    let user : Caller (List Notice) → Caller (List Notice) := fun _ _ w => (.ok (), w)
    let written := (sampleWriter.writeAll (respond user 2) 0 ["\n", "é\n", "ok\n"]).takeBytes 0
      .outbound
    let read := (sampleReader.receiveAll (respond user 3) 0 [.ofBytes .big [0x0a, 0xc3],
      .ofBytes .big [0xa9, 0x0a, 0x6f], .ofBytes .big [0x6b, 0x0a]]).takeTexts 0 4
    written.1.content = [0x0a, 0xc3, 0xa9, 0x0a, 0x6f, 0x6b, 0x0a] ∧
      read.1 = [some (.text ""), some (.text "é"), some (.text "ok"), none] ∧
      (read.2.transport 0).exceptions = [] ∧ read.2.Drained 0 fun _ => True := by
  intro user written read
  have hcontent : written.1.content = [0x0a, 0xc3, 0xa9, 0x0a, 0x6f, 0x6b, 0x0a] := by
    decide +kernel
  have htexts : ∀ text ∈ ["", "é", "ok"], IsLine text ∧ (encode text).length ≤ 4 := by
    decide +kernel
  have hsample := read_written sampleWriter_writing sampleReader_reading rfl rfl htexts
    (by decide +kernel) user user 0 0
  have hread := hsample.2 [.ofBytes .big [0x0a, 0xc3], .ofBytes .big [0xa9, 0x0a, 0x6f],
    .ofBytes .big [0x6b, 0x0a]] hcontent.symm
  exact ⟨hcontent, hread⟩

end World

end Conduit
