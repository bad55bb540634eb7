import Conduit.Proofs.Buffer.Bounds
import Conduit.Proofs.Framing.Decoding

/-!
# Nothing but the Reader

What an attempt to take a line does to the buffer it is made on. The line is a copy, and
what is too long is passed over, so the buffer has the same cells with the same bytes
afterwards, and its writer and both marks stand where they stood. Only the reader may have
moved, and it has not moved back.

## Main definitions

* `Buffer.Onward`: The reader has moved on, and nothing else has changed.

## Theorems

* `Onward.refl`, `Onward.trans`, `Onward.valid`: One operation after the other.
* `Buffer.onward_setReader`, `Buffer.onward_skip`, `Buffer.onward_readBytes`,
  `Buffer.onward_advance`: Single operations.
* `passTo_onward`, `take_onward`: Bytes that are passed over, and a line that is taken.
* `LineFramer.decode_onward`: An attempt to take a line.
-/

namespace Conduit

/-- The reader has moved on, not past the writer, and nothing else has changed. -/
def Buffer.Onward (b c : Buffer) : Prop :=
  ∃ n, b.reader + n ≤ b.writer ∧ c = { b with reader := b.reader + n }

namespace Buffer

variable {b c e : Buffer} {m : Memory}

theorem Onward.refl (h : b.Valid) : b.Onward b := ⟨0, h.reader_le_writer, rfl⟩

theorem Onward.trans (h : b.Onward c) (h' : c.Onward e) : b.Onward e := by
  rcases h with ⟨n, -, rfl⟩
  rcases h' with ⟨k, hk, rfl⟩
  have hk' : b.reader + n + k ≤ b.writer := hk
  exact ⟨n + k, by omega, by rw [← Nat.add_assoc]⟩

theorem Onward.valid (h : b.Onward c) (hb : b.Valid) : c.Valid := by
  rcases h with ⟨n, hn, rfl⟩
  exact ⟨hn, hb.writer_le_capacity, hb.capacity_le_max⟩

theorem onward_setReader {index : Nat} (h : b.reader ≤ index) :
    Yields b.Onward (b.setReader index) := by
  unfold setReader
  by_cases hpast : b.writer < index
  · rw [if_pos hpast]
    exact Yields.error
  · rw [if_neg hpast]
    have hindex : b.reader + (index - b.reader) = index := by omega
    exact Yields.ok ⟨index - b.reader, by omega, by rw [hindex]⟩

theorem onward_advance (h : b.Valid) {length : Nat} (hlength : length ≤ b.readableBytes) :
    b.Onward { b with reader := b.reader + length } := by
  have hreader := h.reader_le_writer
  unfold readableBytes at hlength
  exact ⟨length, by omega, rfl⟩

theorem onward_skip (h : b.Valid) (length : Nat) : Yields b.Onward (b.skip length) :=
  (b.checkReadable_yields length).bind fun _ hlength => Yields.ok (onward_advance h hlength)

theorem onward_readBytes (h : b.Valid) (m : Memory) (length : Nat) :
    Yields (fun result : Buffer × Buffer × Memory => b.Onward result.2.1)
      (b.readBytes m length) :=
  (b.checkReadable_yields length).bind fun _ hlength =>
    Yields.bind (fun _ _ => trivial) fun _ (_ : True) => Yields.ok (onward_advance h hlength)

end Buffer

namespace LineFramer

variable {f next : LineFramer} {b : Buffer} {m : Memory}

theorem passTo_onward (h : b.Valid) {index : Nat} (hindex : b.reader ≤ index)
    (result : Except Error (Option Buffer)) (notices : List Notice) :
    b.Onward (f.passTo next b m index result notices).buffer := by
  unfold passTo
  cases hset : b.setReader index with
  | error cause => exact Buffer.Onward.refl h
  | ok c => exact Buffer.onward_setReader hindex c hset

theorem take_onward (h : b.Valid) (length ending : Nat) :
    b.Onward (f.take b m length ending).buffer := by
  unfold take
  by_cases hstrip : f.strip = true
  · rw [if_pos hstrip]
    cases hread : b.readBytes m length with
    | error cause => exact Buffer.Onward.refl h
    | ok taken =>
        rcases taken with ⟨line, c, m'⟩
        have hc : b.Onward c := Buffer.onward_readBytes h m length _ hread
        dsimp only
        -- The line has been copied, and if its ending cannot be skipped the reader stays behind it.
        cases hskip : c.skip ending with
        | error cause => exact hc
        | ok e => exact hc.trans (Buffer.onward_skip (hc.valid h) ending e hskip)
  · rw [if_neg hstrip]
    cases hread : b.readBytes m (length + ending) with
    | error cause => exact Buffer.Onward.refl h
    | ok taken => exact Buffer.onward_readBytes h m (length + ending) _ hread

/-- An attempt to take a line moves the reader on, or leaves it. -/
theorem decode_onward (h : b.Valid) (f : LineFramer) (m : Memory) :
    b.Onward (f.decode b m).buffer := by
  have hreader := h.reader_le_writer
  unfold decode
  -- A line has come to its end or not, and a long one is being passed over or not.
  rcases f.terminator.firstEnd (b.content m) with _ | ⟨length, ending⟩
  · cases f.discarding with
    | true => exact passTo_onward h hreader _ _
    | false =>
        dsimp only
        by_cases hlong : f.maxLength < b.readableBytes
        · rw [if_pos hlong]
          exact passTo_onward h hreader _ _
        · rw [if_neg hlong]
          exact Buffer.Onward.refl h
  · have hend : b.reader ≤ b.reader + length + ending := by omega
    cases f.discarding with
    | true => exact passTo_onward h hend _ _
    | false =>
        dsimp only
        by_cases hlong : f.maxLength < length
        · rw [if_pos hlong]
          exact passTo_onward h hend _ _
        · rw [if_neg hlong]
          exact take_onward h length ending

end LineFramer

end Conduit
