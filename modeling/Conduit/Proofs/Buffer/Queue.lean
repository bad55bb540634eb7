import Conduit.Proofs.Buffer.Held

/-!
# A Buffer as a Queue of Bytes

What waits in a sealed buffer that is read while it is written. `Sealed.Holds` is for
buffers that are moved to the front after each use; here the bytes that were taken may
go on standing in front of those that wait, and then they take up room.

So there are two things to follow. One is the queue, and what an operation makes of it
does not depend on where in the buffer it is. The other is how far the buffer has been
filled, which decides whether more bytes fit, and nothing else.

## Main definitions

* `Sealed.Waiting`: A sealed buffer in which some bytes wait.

## Theorems

* `Sound.tryReadWord_eq`: The next word is made of the next bytes.
* `Holds.waiting`: A buffer that holds some bytes has them wait.
* `Waiting.readableBytes`: How many bytes wait.
* `Waiting.write`, `Waiting.drainInto`: Bytes join the queue at its end.
* `Waiting.skip`, `Waiting.past`, `Waiting.tryReadWord`, `Waiting.readWord`: Bytes leave it
  at its front.
* `Waiting.discardReadBytes`, `Waiting.clear`: The room in front is given back.
-/

namespace Conduit

/-- The next word is made of the next bytes. -/
theorem Buffer.Sound.tryReadWord_eq {b : Buffer} {m : Memory} (h : b.Sound m) {w : Nat}
    (hw : w ≤ b.readableBytes) :
    b.tryReadWord m w = .ok (Word.decode w b.order ((b.content m).take w),
      { b with reader := b.reader + w }) := by
  rw [tryReadWord, checkReadable_ok hw, getWord, getBytes,
    checkWindow_ok (h.valid.reader_add_le hw), ← peek_reader h.fits hw]
  rfl

namespace Sealed

/-- A sealed buffer in which `bytes` wait, filled up to `reach`. -/
structure Waiting (s : Sealed) (bytes : Bytes) (reach : Nat) : Prop where
  sound : s.buffer.Sound s.memory
  content : s.content = bytes
  writer : s.buffer.writer = reach
  maxCapacity : s.buffer.maxCapacity = Capacity.defaultMax

variable {s : Sealed} {bytes : Bytes} {reach : Nat}

theorem Holds.waiting (h : s.Holds bytes) : s.Waiting bytes bytes.length :=
  ⟨h.sound, h.content, h.writer_eq, h.maxCapacity⟩

namespace Waiting

theorem readableBytes (h : s.Waiting bytes reach) : s.buffer.readableBytes = bytes.length := by
  rw [← h.sound.length_content]
  exact congrArg List.length h.content

/-! ### At the end -/

/-- Bytes that are written come behind those that wait. -/
theorem write (h : s.Waiting bytes reach) {src : Bytes}
    (hroom : reach + src.length ≤ Capacity.defaultMax) :
    ∃ s', s.write src = (src.length, s') ∧ s'.Waiting (bytes ++ src) (reach + src.length) ∧
      s'.order = s.order := by
  -- Room is counted from the reach on, so the bytes that were taken use it up too.
  have hfits : src.length ≤ s.buffer.maxWritableBytes := by
    rw [Buffer.maxWritableBytes, h.maxCapacity, h.writer]
    omega
  rcases h.sound.write hfits with ⟨rs, m', hwrite, hsound, hcontent⟩
  refine ⟨⟨_, m'⟩, ?_, ⟨hsound, ?_, ?_, h.maxCapacity⟩, rfl⟩
  · rw [Sealed.write, hwrite]
  · exact hcontent.trans (congrArg (· ++ src) h.content)
  · exact congrArg (· + src.length) h.writer

/-- So do those of a buffer that is drained, and it is then at its end. -/
theorem drainInto (h : s.Waiting bytes reach) {src : Sealed}
    (hroom : reach + src.content.length ≤ Capacity.defaultMax) :
    ∃ s', src.drainInto s = (src.past src.content.length, s') ∧
      s'.Waiting (bytes ++ src.content) (reach + src.content.length) ∧ s'.order = s.order := by
  rcases h.write hroom with ⟨s', hwrite, hwaiting, horder⟩
  exact ⟨s', by rw [Sealed.drainInto, hwrite]; rfl, hwaiting, horder⟩

/-! ### At the front -/

/-- The buffer after the first bytes that wait. -/
theorem past (h : s.Waiting bytes reach) {used : Nat} (hused : used ≤ bytes.length) :
    (s.past used).Waiting (bytes.drop used) reach := by
  rcases past_sound h.sound (h.readableBytes ▸ hused) with ⟨hsound, hcontent, -⟩
  exact ⟨hsound, by rw [hcontent, h.content], h.writer, h.maxCapacity⟩

theorem skip (h : s.Waiting bytes reach) (length : Nat) :
    s.skip length = if length ≤ bytes.length then .ok (s.past length)
      else .error (.range (.unreadable length bytes.length)) := by
  rw [Sealed.skip, Buffer.skip, Buffer.checkReadable, h.readableBytes]
  by_cases hlength : length ≤ bytes.length
  · rw [if_pos hlength, if_pos hlength]
    rfl
  · rw [if_neg hlength, if_neg hlength]
    rfl

theorem tryReadWord (h : s.Waiting bytes reach) (w : Nat) :
    s.buffer.tryReadWord s.memory w =
      if w ≤ bytes.length then .ok (Word.decode w s.order (bytes.take w), (s.past w).buffer)
      else .error (.range (.unreadable w bytes.length)) := by
  by_cases hw : w ≤ bytes.length
  · rw [if_pos hw, h.sound.tryReadWord_eq (h.readableBytes ▸ hw), ← h.content]
    rfl
  · rw [if_neg hw, Buffer.tryReadWord, Buffer.checkReadable, h.readableBytes, if_neg hw]
    rfl

theorem readWord (h : s.Waiting bytes reach) (w : Nat) :
    s.readWord w =
      if w ≤ bytes.length then (Word.decode w s.order (bytes.take w), s.past w) else (0, s) := by
  rw [Sealed.readWord, Buffer.readWord, h.tryReadWord]
  by_cases hw : w ≤ bytes.length
  · rw [if_pos hw, if_pos hw]
    rfl
  · rw [if_neg hw, if_neg hw]

/-! ### Giving room back -/

theorem discardReadBytes (h : s.Waiting bytes reach) :
    s.discardReadBytes.Waiting bytes bytes.length ∧ s.discardReadBytes.order = s.order := by
  have hdiscard := holds_discardReadBytes h.sound h.maxCapacity
  rw [h.content] at hdiscard
  exact ⟨hdiscard.1.waiting, hdiscard.2⟩

theorem clear (h : s.Waiting bytes reach) : s.clear.Waiting [] 0 := by
  have hsound : s.clear.buffer.Sound s.clear.memory :=
    ⟨⟨Nat.le_refl 0, Nat.zero_le _, h.sound.valid.capacity_le_max⟩, h.sound.fits, h.sound.apart⟩
  have hnone : s.clear.content.length = 0 := hsound.length_content
  exact ⟨hsound, List.eq_nil_of_length_eq_zero hnone, rfl, h.maxCapacity⟩

end Waiting

end Sealed

end Conduit
