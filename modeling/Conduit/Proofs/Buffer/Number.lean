import Conduit.Proofs.Buffer.Compaction
import Conduit.Proofs.Buffer.Window

/-!
# Words There and Back

A word that is written to a buffer and read again is the same word. Between the two lie the
bytes of the word, and so there are two halves to this. The bytes of a word tell the word,
whichever of them comes first; and bytes that are written are seen where they were written,
wherever the regions of the buffer are cut and whether or not it had to grow.

The second half is false of a buffer that looks at one byte through two indices, so all of
it is about `Sound` buffers. Of these it says a little more than the first half needs: the
bytes beside the ones that are written stay what they were.

## Main definitions

* `Buffer.Written`: What some bytes do to a buffer that are written to it.

## Theorems

* `littleBytes_injective`, `ofLittleBytes_littleBytes`: The bytes of a word tell its bits.
* `Word.decode_encode`: A word can be read from its bytes.
* `Sound.store`: Whatever else is written to it, a buffer stays sound.
* `Strikes.written`: A stroke does to a buffer what its bytes do.
* `getWord_ok`, `tryReadWord_ok`, `tryReadWord_error`, `setBytes_error`: When a call
  succeeds, and what it says if not.
* `Written.peek`: Bytes that have been written are read.
* `Written.getWord`: A word that has been written is read.
* `Sound.setBytes_written`, `Sound.write_written`, `Sound.writeAhead_written`: The three ways
  to write.
-/

namespace Conduit

open Region

namespace Word

/-- The bytes of a word tell all of its bits. -/
theorem littleBytes_injective {w : Nat} {u v : Word w} (h : u.littleBytes = v.littleBytes) :
    u = v := by
  refine BitVec.eq_of_getLsbD_eq fun i hi => ?_
  have hbyte : u.extractLsb' (8 * (i / 8)) 8 = v.extractLsb' (8 * (i / 8)) 8 := by
    have hboth := List.map_inj_left.mp h (i / 8) (List.mem_range.mpr (by omega))
    exact UInt8.ofBitVec.inj hboth
  have hbit := congrArg (fun x => BitVec.getLsbD x (i % 8)) hbyte
  simp only [BitVec.getLsbD_extractLsb', Nat.div_add_mod] at hbit
  rwa [decide_eq_true (Nat.mod_lt i (by decide)), Bool.true_and, Bool.true_and] at hbit

theorem ofLittleBytes_littleBytes {w : Nat} (v : Word w) :
    ofLittleBytes w v.littleBytes = v := by
  have hback : ∀ bytes : Bytes, bytes.length = w →
      (ofLittleBytes w bytes).littleBytes = bytes := by
    rintro bytes rfl
    exact littleBytes_ofLittleBytes bytes
  refine littleBytes_injective (hback _ ?_)
  rw [littleBytes, List.length_map, List.length_range]

/-- A word can be read from its bytes. -/
theorem decode_encode {w : Nat} (order : ByteOrder) (v : Word w) :
    decode w order (encode order v) = v := by
  cases order with
  | little => exact ofLittleBytes_littleBytes v
  | big =>
      rw [encode, decode, List.reverse_reverse]
      exact ofLittleBytes_littleBytes v

end Word

namespace Buffer

variable {b b' : Buffer} {m m' : Memory} {index : Nat} {bytes : Bytes}

/-- Bytes are written to a buffer from `index` on: they are seen there afterwards, and all else
    that the buffer held is seen where it was. -/
structure Written (b : Buffer) (m : Memory) (b' : Buffer) (m' : Memory) (index : Nat)
    (bytes : Bytes) : Prop where
  there : ∀ k < bytes.length, m'.byteAt b'.regions (index + k) = bytes[k]?
  others : ∀ i < b.capacity, i < index ∨ index + bytes.length ≤ i →
    m'.byteAt b'.regions i = m.byteAt b.regions i

/-- Whatever else is written to it, a buffer stays sound. -/
theorem Sound.store (h : b.Sound m) (index : Nat) (bytes : Bytes) :
    b.Sound (m.store b.regions index bytes) :=
  ⟨h.valid, fun r hr => Memory.fits_storeAll (h.fits r hr) _ _, h.apart⟩

/-- A stroke does to a sound buffer what its bytes do. -/
theorem Strikes.written (h : b.Strikes m b' m' ⟨index, bytes⟩) (hsound : b'.Sound m') :
    b.Written m b' m' index bytes := by
  have hinside : ∀ {k}, Stroke.Covers ⟨index, bytes⟩ k → k < b'.capacity := h.inside
  have hthere : ∀ {i}, i < b'.capacity → (m'.byteAt b'.regions i).isSome = true :=
    fun hi => hsound.backed.isSome_byteAt hi
  rcases h with ⟨mid, hhouse, rfl, -⟩
  refine ⟨fun k hk => ?_, fun i hi hbeside => ?_⟩
  · have hcover : Stroke.Covers ⟨index, bytes⟩ (index + k) :=
      ⟨Nat.le_add_right _ _, Nat.add_lt_add_left hk _⟩
    -- The byte is there before the write, since a write makes no byte.
    have hbyte : (mid.byteAt b'.regions (index + k)).isSome = true := by
      rw [← Memory.isSome_byteAt_store]
      exact hthere (hinside hcover)
    have hstored : (mid.store b'.regions index bytes).byteAt b'.regions (index + k) =
        bytes[index + k - index]? := by
      refine Memory.byteAt_store_last hcover.1 hcover.2 rfl (fun k' hlater _ hsame => ?_) hbyte
      -- No other index denotes the same address.
      have heq := eq_of_place? hsound.apart (hinside hcover) hsame.symm
      omega
    rwa [Nat.add_sub_cancel_left] at hstored
  · -- What was there before has been taken along, and no index of the stroke reaches it.
    rw [← hhouse.kept i hi]
    refine Memory.byteAt_store_untouched fun k hlow hhigh hsame => ?_
    have heq := eq_of_place? hsound.apart (hinside ⟨hlow, hhigh⟩) hsame
    subst heq
    rcases hbeside with hbefore | hafter
    · exact Nat.not_le_of_lt hbefore hlow
    · exact Nat.not_le_of_lt hhigh hafter

/-! ### Reading -/

theorem getWord_ok {w : Nat} (h : index + w ≤ b.capacity) :
    b.getWord m w index = .ok (Word.decode w b.order (b.peek m index w)) := by
  rw [getWord, getBytes, checkWindow_ok h]
  rfl

/-- The next word is the one at the reader. -/
theorem tryReadWord_ok {w : Nat} {v : Word w} (h : w ≤ b.readableBytes)
    (hword : b.getWord m w b.reader = .ok v) :
    b.tryReadWord m w = .ok (v, { b with reader := b.reader + w }) := by
  rw [tryReadWord, checkReadable_ok h, hword]
  rfl

theorem tryReadWord_error {w : Nat} (h : b.readableBytes < w) :
    b.tryReadWord m w = .error (.range (.unreadable w b.readableBytes)) := by
  rw [tryReadWord, checkReadable_error h]
  rfl

/-- Bytes that have been written are read. -/
theorem Written.peek (h : b.Written m b' m' index bytes) (hbacked : b'.Backed m')
    (hin : index + bytes.length ≤ b'.capacity) : b'.peek m' index bytes.length = bytes := by
  have hlength := hbacked.length_peek hin
  refine List.ext_getElem? fun k => ?_
  by_cases hk : k < bytes.length
  · rw [hbacked.getElem?_peek hk, h.there k hk]
  · rw [List.getElem?_eq_none (by omega), List.getElem?_eq_none (by omega)]

/-- A word that has been written is read. -/
theorem Written.getWord {w : Nat} {v : Word w}
    (h : b.Written m b' m' index (Word.encode b'.order v)) (hbacked : b'.Backed m')
    (hin : index + w ≤ b'.capacity) : b'.getWord m' w index = .ok v := by
  have hbytes := h.peek hbacked (by rwa [Word.length_encode])
  rw [Word.length_encode] at hbytes
  rw [getWord_ok hin, hbytes, Word.decode_encode]

/-! ### Writing -/

theorem Sound.setBytes_written (h : b.Sound m) (bytes : Bytes)
    (hin : index + bytes.length ≤ b.capacity) :
    ∃ m', b.setBytes m index bytes = .ok m' ∧ b.Sound m' ∧ b.Written m b m' index bytes := by
  have hset : b.setBytes m index bytes = .ok (m.store b.regions index bytes) := by
    rw [setBytes, checkWindow_ok hin]
    rfl
  have hsound := h.store index bytes
  exact ⟨_, hset, hsound, (strikes_store rfl hin).written hsound⟩

theorem setBytes_error (m : Memory) (bytes : Bytes) (h : b.capacity < index + bytes.length) :
    b.setBytes m index bytes = .error (.range (.window index bytes.length b.capacity)) := by
  rw [setBytes, checkWindow_error h]
  rfl

/-- Appended bytes are written at the writer, in the buffer that may have grown for them. -/
theorem Sound.write_written (h : b.Sound m) (bytes : Bytes)
    (hroom : bytes.length ≤ b.maxWritableBytes) :
    ∃ rs m', b.write m bytes =
        (bytes.length, { b with regions := rs, writer := b.writer + bytes.length }, m') ∧
      Sound { b with regions := rs, writer := b.writer + bytes.length } m' ∧
      b.Written m { b with regions := rs, writer := b.writer + bytes.length } m' b.writer
        bytes := by
  rcases h.write_standing hroom with ⟨rs, m', hwrite, hsound, -⟩
  have hstrikes := strikes_write h.backed bytes
  rw [hwrite, appending, if_pos hroom] at hstrikes
  exact ⟨rs, m', hwrite, hsound, hstrikes.written hsound⟩

theorem Sound.writeAhead_written (h : b.Sound m) (bytes : Bytes)
    (hroom : bytes.length ≤ b.reader) :
    ∃ m', b.writeAhead m bytes = .ok ({ b with reader := b.reader - bytes.length }, m') ∧
      Sound { b with reader := b.reader - bytes.length } m' ∧
      b.Written m { b with reader := b.reader - bytes.length } m' (b.reader - bytes.length)
        bytes := by
  have hreader := h.valid.reader_le_writer
  have hwriter := h.valid.writer_le_capacity
  have hahead : b.writeAhead m bytes = .ok ({ b with reader := b.reader - bytes.length },
      m.store b.regions (b.reader - bytes.length) bytes) := if_neg (Nat.not_lt_of_le hroom)
  have hstored := h.store (b.reader - bytes.length) bytes
  have hvalid : Valid { b with reader := b.reader - bytes.length } :=
    ⟨Nat.le_trans (Nat.sub_le _ _) hreader, hwriter, h.valid.capacity_le_max⟩
  have hsound : Sound { b with reader := b.reader - bytes.length }
      (m.store b.regions (b.reader - bytes.length) bytes) :=
    ⟨hvalid, hstored.fits, hstored.apart⟩
  exact ⟨_, hahead, hsound, Strikes.written (strikes_store rfl (by omega)) hsound⟩

end Buffer

end Conduit
