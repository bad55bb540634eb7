import Conduit.Container
import Conduit.Proofs.Buffer.Content

/-!
# What Containers Hold

The bytes and the messages that wait in a container, whatever has come and gone
there. The loose bytes of a container are a sealed buffer that starts out with room
for a few bytes and grows to any length that a buffer may have. Between operations
what was read is discarded, so all of that length is there for what waits.

Bytes are lost that do not fit into a buffer of the greatest length. `Holds` speaks
of containers for which that is the only limit, and everything that adds bytes asks
that they do not go past it.

## Main definitions

* `Sealed.Holds`: A sealed buffer that holds some bytes, ready for more.
* `Container.Holds`: A container that holds some bytes and messages.

## Theorems

* `Sealed.isReadable_eq_false_iff`: There is nothing to read if there is no content.
* `Sealed.past_sound`: After some bytes have been passed over.
* `Sealed.Holds.unreadable`, `Sealed.Holds.writer_eq`: A buffer that holds nothing, and
  where the writer stands in one that holds something.
* `Sealed.holds_growable`: A new buffer holds nothing.
* `Sealed.Holds.write`: Bytes that are written are added.
* `Sealed.holds_discardReadBytes`: Any sound buffer, after what was read is discarded.
* `Sealed.Holds.drainInto`: A buffer that is drained adds its bytes.
* `Sealed.content_ofBytes`, `Sealed.content_copied`: Copies hold what they are made of.
* `Sealed.Holds.readBytes`: Reading everything.
* `Container.holds_withOrder`, `Container.holds_new`: A new container holds nothing.
* `Container.Holds.isEmpty`: And one that holds nothing is empty.
* `Container.Holds.pushAll`, `Container.Holds.add`: Messages that are queued, and a buffer
  that is added.
* `Container.Holds.transferTo`: Moving everything.
-/

namespace Conduit

namespace Sealed

/-- A sealed buffer that holds `bytes` at its front, and can grow to the greatest length. -/
structure Holds (s : Sealed) (bytes : Bytes) : Prop where
  sound : s.buffer.Sound s.memory
  content : s.content = bytes
  front : s.buffer.reader = 0
  maxCapacity : s.buffer.maxCapacity = Capacity.defaultMax

variable {s : Sealed} {bytes : Bytes}

theorem isReadable_eq_false_iff (h : s.buffer.Sound s.memory) :
    s.isReadable = false ↔ s.content = [] := by
  rw [← List.length_eq_zero_iff, Sealed.content, h.length_content]
  change decide (0 < s.buffer.readableBytes) = false ↔ _
  rw [decide_eq_false_iff_not]
  omega

/-- The sealed buffer after its first `used` bytes. -/
def past (s : Sealed) (used : Nat) : Sealed :=
  { s with buffer := { s.buffer with reader := s.buffer.reader + used } }

theorem past_sound (hsound : s.buffer.Sound s.memory) {used : Nat}
    (hused : used ≤ s.readableBytes) :
    (s.past used).buffer.Sound (s.past used).memory ∧
      (s.past used).content = s.content.drop used ∧
      (s.past used).readableBytes + used = s.readableBytes := by
  rcases hsound.advance hused with ⟨hlater, hcontent⟩
  refine ⟨hlater, hcontent, ?_⟩
  change s.buffer.writer - (s.buffer.reader + used) + used = s.buffer.writer - s.buffer.reader
  have hreader := hsound.valid.reader_le_writer
  change used ≤ s.buffer.writer - s.buffer.reader at hused
  omega

theorem Holds.unreadable (h : s.Holds []) : s.isReadable = false :=
  (isReadable_eq_false_iff h.sound).mpr h.content

theorem Holds.writer_eq (h : s.Holds bytes) : s.buffer.writer = bytes.length := by
  have hlen := h.sound.length_content
  change s.content.length = s.buffer.writer - s.buffer.reader at hlen
  rw [h.content, h.front] at hlen
  omega

/-- A new buffer holds nothing. -/
theorem holds_growable (order : ByteOrder) {capacity : Nat} (h : capacity ≤ Capacity.defaultMax) :
    (growable order capacity).Holds [] := by
  have hgrowable := Buffer.Sound.growable {} order capacity
  exact ⟨hgrowable.1, hgrowable.2, rfl, Nat.max_eq_left h⟩

/-- Bytes that are written are added. -/
theorem Holds.write (h : s.Holds bytes) {src : Bytes}
    (hroom : (bytes ++ src).length ≤ Capacity.defaultMax) :
    ∃ s', s.write src = (src.length, s') ∧ s'.Holds (bytes ++ src) ∧ s'.order = s.order := by
  -- What is held stands at the front, so all the rest of the greatest length is there.
  have hfits : src.length ≤ s.buffer.maxWritableBytes := by
    rw [Buffer.maxWritableBytes, h.maxCapacity, h.writer_eq]
    rw [List.length_append] at hroom
    omega
  rcases h.sound.write hfits with ⟨rs, m', hwrite, hsound, hcontent⟩
  refine ⟨⟨_, m'⟩, ?_, ⟨hsound, ?_, h.front, h.maxCapacity⟩, rfl⟩
  · rw [Sealed.write, hwrite]
  · exact hcontent.trans (congrArg (· ++ src) h.content)

/-- A sound buffer holds what can be read of it, once what was read is discarded. -/
theorem holds_discardReadBytes (hsound : s.buffer.Sound s.memory)
    (hmax : s.buffer.maxCapacity = Capacity.defaultMax) :
    s.discardReadBytes.Holds s.content ∧ s.discardReadBytes.order = s.order := by
  rcases hsound.discardReadBytes with
    ⟨b', m', hdiscard, hsound', hcontent, hfront, -, hmax', horder⟩
  rw [discardReadBytes, hdiscard]
  exact ⟨⟨hsound', hcontent, hfront, hmax'.trans hmax⟩, horder⟩

/-- A buffer that is drained adds what can be read of it, and is then at its end. -/
theorem Holds.drainInto (h : s.Holds bytes) {src : Sealed}
    (hroom : (bytes ++ src.content).length ≤ Capacity.defaultMax) :
    ∃ s', src.drainInto s = (src.past src.content.length, s') ∧
      s'.Holds (bytes ++ src.content) ∧ s'.order = s.order := by
  rcases h.write hroom with ⟨s', hwrite, hholds, horder⟩
  exact ⟨s', by rw [Sealed.drainInto, hwrite]; rfl, hholds, horder⟩

/-! ### Copies -/

theorem content_ofBytes (order : ByteOrder) (bytes : Bytes) :
    (ofBytes order bytes).content = bytes := by
  have hsize : bytes.length ≤ bytes.toArray.size := Nat.le_of_eq List.size_toArray.symm
  have hmax : bytes.toArray.size ≤ max Capacity.defaultMax bytes.length := by
    rw [List.size_toArray]
    exact Nat.le_max_right _ _
  have hbytes := (Buffer.Sound.ofBytes {} order bytes.toArray hsize hmax).2
  exact hbytes.trans (List.take_of_length_le (Nat.le_refl _))

theorem content_copied (order : ByteOrder) (bytes : Bytes) :
    (copied order bytes).content = bytes := by
  cases bytes with
  | nil => rfl
  | cons byte bytes => exact content_ofBytes order (byte :: bytes)

/-- All that can be read is read, and nothing is left. -/
theorem Holds.readBytes (h : s.Holds bytes) :
    ∃ rest, s.readBytes s.readableBytes = .ok (ofBytes s.order bytes, rest) ∧
      rest.discardReadBytes.Holds [] := by
  have hpeek : s.buffer.peek s.memory s.buffer.reader s.readableBytes = bytes := h.content
  rcases past_sound h.sound (Nat.le_refl s.readableBytes) with ⟨hpast, hcontent, -⟩
  refine ⟨s.past s.readableBytes, ?_, ?_⟩
  · have hall : s.readableBytes ≤ s.buffer.readableBytes := Nat.le_refl _
    rw [Sealed.readBytes, Buffer.readInto, Buffer.checkReadable_ok hall, hpeek]
    rfl
  · -- The reader is where the writer is.
    have hnone : (s.past s.readableBytes).content = [] := by
      rw [hcontent]
      exact List.drop_of_length_le (Nat.le_of_eq h.sound.length_content)
    have hdiscard := (holds_discardReadBytes hpast h.maxCapacity).1
    rwa [hnone] at hdiscard

end Sealed

namespace Container

/-- A container that holds some loose bytes and some messages. -/
structure Holds (c : Container) (bytes : Bytes) (messages : List Message) : Prop where
  bytes : c.bytes.Holds bytes
  messages : c.messages = messages

variable {c other : Container} {bytes more : Bytes} {msgs msgs' : List Message}

theorem holds_withOrder (order : ByteOrder) : (withOrder order).Holds [] [] :=
  ⟨Sealed.holds_growable order (by decide), rfl⟩

theorem holds_new : new.Holds [] [] := holds_withOrder .big

theorem Holds.isEmpty (h : c.Holds [] []) : c.isEmpty = true := by
  rw [Container.isEmpty, h.messages, h.bytes.unreadable]
  rfl

theorem Holds.pushAll (h : c.Holds bytes msgs) (msgs' : List Message) :
    (c.pushAll msgs').Holds bytes (msgs ++ msgs') :=
  ⟨h.bytes, by rw [Container.pushAll, h.messages]⟩

/-- A buffer that is added adds its bytes. -/
theorem Holds.add (h : c.Holds bytes msgs) {s : Sealed}
    (hroom : (bytes ++ s.content).length ≤ Capacity.defaultMax) :
    (c.add (.buffer s)).Holds (bytes ++ s.content) msgs ∧
      (c.add (.buffer s)).bytes.order = c.bytes.order := by
  rcases h.bytes.drainInto hroom with ⟨s', hdrain, hholds, horder⟩
  rw [Container.add, hdrain]
  exact ⟨⟨hholds, h.messages⟩, horder⟩

/-- Moving everything adds it to the other container, and leaves nothing. -/
theorem Holds.transferTo (h : c.Holds bytes msgs) (h' : other.Holds more msgs')
    (hroom : (more ++ bytes).length ≤ Capacity.defaultMax) :
    ∃ left filled, c.transferTo other = (left, filled) ∧ left.Holds [] [] ∧
      filled.Holds (more ++ bytes) (msgs' ++ msgs) := by
  have hcontent := h.bytes.content
  rw [← hcontent] at hroom ⊢
  rcases h'.bytes.drainInto hroom with ⟨s', hdrain, hholds, -⟩
  have hall : c.bytes.content.length ≤ c.bytes.readableBytes :=
    Nat.le_of_eq h.bytes.sound.length_content
  rcases Sealed.past_sound h.bytes.sound hall with ⟨hsound, hrest, -⟩
  -- All of it has been read, so nothing is left to discard it for.
  have hdiscard := Sealed.holds_discardReadBytes hsound h.bytes.maxCapacity
  rw [hrest, List.drop_of_length_le (Nat.le_refl _)] at hdiscard
  refine ⟨{ bytes := (c.bytes.past c.bytes.content.length).discardReadBytes },
    { bytes := s', messages := other.messages ++ c.messages }, ?_, ⟨hdiscard.1, rfl⟩, hholds, ?_⟩
  · rw [Container.transferTo, hdrain]
  · rw [h'.messages, h.messages]

end Container

end Conduit
