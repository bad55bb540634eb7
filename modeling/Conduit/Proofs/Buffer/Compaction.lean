import Conduit.Proofs.Buffer.Mirror
import Conduit.Proofs.Buffer.Stroke
import Mathlib.Data.Nat.Find

/-!
# Moving Bytes to the Front

What compaction makes of a buffer, whatever its regions are. All readable bytes are read
before any is written, so it does no harm that the stretch they come from and the one they
go to overlap. What does harm is a buffer that looks at one byte of memory through two
indices. Both of them may be written to, and then the first of the two bytes that were
moved there is gone.

`Sound` buffers have no such indices, and for them nothing more is to be said than that
the content stays. Here it is said for every buffer, and exactly: the content stays just if
any two bytes that are moved to one address are the same byte. If they are not, the last
one is seen through both indices.

## Main definitions

* `Buffer.Compacted`: What compaction makes of a buffer.

## Theorems

* `exists_last`: Of the indices that have one value, one is the last.
* `pairwise_apart_of_flat`: One region is apart from all others.
* `byteAt_of_place?`, `eq_of_place?`: Indices that denote one address.
* `discardReadBytes_fst`: The cursors afterwards.
* `getElem?_content`, `getElem?_front`: The content by indices, before and after.
* `byteAt_front`: What is seen at the front.
* `content_discardReadBytes_iff`: When the content stays.
* `Backed.compacted`: What compaction makes of any buffer.
-/

namespace Conduit

open Region

/-- Of the indices below a bound at which a function has one value, one is the last. -/
theorem exists_last {α : Type} [DecidableEq α] (f : Nat → α) {i n : Nat} (hi : i < n) :
    ∃ j < n, f j = f i ∧ ∀ k, j < k → k < n → f k ≠ f j := by
  have hbound : i ≤ n - 1 := by omega
  have hlast : f (Nat.findGreatest (fun j => f j = f i) (n - 1)) = f i :=
    Nat.findGreatest_spec (P := fun j => f j = f i) hbound rfl
  have hle := Nat.findGreatest_le (P := fun j => f j = f i) (n - 1)
  refine ⟨_, by omega, hlast, fun k hk hkn hsame => ?_⟩
  exact Nat.findGreatest_is_greatest hk (by omega) (hsame.trans hlast)

namespace Buffer

/-- What moving the readable bytes to the front makes of a buffer. -/
structure Compacted (b : Buffer) (m : Memory) (b' : Buffer) (m' : Memory) : Prop where
  /-- Cursors and marks go back by as much as had been read, or to the start. Nothing else of
      the buffer changes. -/
  cursors : b' = { b with
    reader := 0
    writer := b.readableBytes
    readerMark := b.readerMark - b.reader
    writerMark := b.writerMark - b.reader }
  capacity : b'.capacity = b.capacity
  /-- Each index in front shows the last of the bytes that were moved to its address. -/
  last : ∀ i j, i < b.readableBytes → j < b.readableBytes → b.place? i = b.place? j →
    (∀ k, j < k → k < b.readableBytes → b.place? k ≠ b.place? j) →
    (b'.content m')[i]? = (b.content m)[j]?
  /-- The content stays just if bytes that are moved to the same address are the same. -/
  kept_iff : b'.content m' = b.content m ↔
    ∀ i j, i < b.readableBytes → j < b.readableBytes → b.place? i = b.place? j →
      (b.content m)[i]? = (b.content m)[j]?
  /-- So it does in a buffer that looks at no byte twice, -/
  apart : b.regions.Pairwise Region.Apart → b'.content m' = b.content m
  /-- and in one that is flat. -/
  flat : b.isComposite = false → b'.content m' = b.content m

variable {b : Buffer} {m : Memory}

/-- One region is apart from all others. -/
theorem pairwise_apart_of_flat (h : b.isComposite = false) : b.regions.Pairwise Region.Apart := by
  rw [isComposite, decide_eq_false_iff_not] at h
  match hregions : b.regions with
  | [] => exact List.Pairwise.nil
  | [r] => exact List.pairwise_singleton _ _
  | r :: s :: rs =>
      rw [hregions] at h
      exact absurd (Nat.le_add_left 2 rs.length) h

/-- Indices that denote one address show one byte. -/
theorem byteAt_of_place? {i j : Nat} (h : b.place? i = b.place? j) :
    m.byteAt b.regions i = m.byteAt b.regions j := by
  rw [place?, place?] at h
  rw [Memory.byteAt_eq, Memory.byteAt_eq, h]

/-- Where no address comes twice, indices that denote one address are the same. -/
theorem eq_of_place? (hapart : b.regions.Pairwise Region.Apart) {i j : Nat} (hi : i < b.capacity)
    (h : b.place? i = b.place? j) : i = j :=
  (List.getElem?_inj (by rwa [length_addresses]) (nodup_addresses hapart)).mp h

theorem discardReadBytes_fst (b : Buffer) (m : Memory) :
    (b.discardReadBytes m).1 = { b with
      reader := 0
      writer := b.readableBytes
      readerMark := b.readerMark - b.reader
      writerMark := b.writerMark - b.reader } := by
  rw [discardReadBytes, readableBytes]
  by_cases hzero : b.reader = 0
  · rw [if_pos hzero, hzero]
    rcases b with ⟨regions, order, reader, writer, readerMark, writerMark, maxCapacity⟩
    cases hzero
    rfl
  · rw [if_neg hzero]

namespace Backed

/-- The content is what is seen from the reader on. -/
theorem getElem?_content (h : b.Backed m) {i : Nat} (hi : i < b.readableBytes) :
    (b.content m)[i]? = m.byteAt b.regions (b.reader + i) := h.getElem?_peek hi

/-- What can be read after bytes have been moved to the front is seen there. -/
theorem getElem?_front (h : b.Backed m) {i : Nat} (hi : i < b.readableBytes) :
    ((b.discardReadBytes m).1.content (b.discardReadBytes m).2)[i]? =
      (b.discardReadBytes m).2.byteAt b.regions i := by
  have hafter := h.discardReadBytes.backed
  rw [discardReadBytes_fst] at hafter ⊢
  rw [hafter.getElem?_content (by rwa [readableBytes, Nat.sub_zero]), Nat.zero_add]

/-- The last byte that is moved to an address is seen through all indices that denote it. -/
theorem byteAt_front (h : b.Backed m) {i j : Nat} (hi : i < b.readableBytes)
    (hj : j < b.readableBytes) (hplace : b.place? i = b.place? j)
    (hlast : ∀ k, j < k → k < b.readableBytes → b.place? k ≠ b.place? j) :
    (b.discardReadBytes m).2.byteAt b.regions i = (b.content m)[j]? := by
  have hroom := h.valid.reader_add_le (Nat.le_refl b.readableBytes)
  by_cases hzero : b.reader = 0
  · -- Nothing is moved, and both indices show what they showed.
    rw [Buffer.discardReadBytes, if_pos hzero, h.getElem?_content hj, hzero, Nat.zero_add]
    exact byteAt_of_place? hplace
  · rw [Buffer.discardReadBytes, if_neg hzero]
    -- All readable bytes are written in one stretch from the front on, so the last of those
    -- that go to the address of `i` is seen there.
    have hthere := h.isSome_byteAt (show i < b.capacity by omega)
    refine Memory.byteAt_store_last (Nat.zero_le j) ?_ hplace.symm ?_ hthere
    · rw [h.length_content, Nat.zero_add]
      exact hj
    · intro k hk hkn hsame
      rw [h.length_content, Nat.zero_add] at hkn
      exact hlast k hk hkn (hsame.trans hplace)

theorem content_discardReadBytes_iff (h : b.Backed m) :
    (b.discardReadBytes m).1.content (b.discardReadBytes m).2 = b.content m ↔
      ∀ i j, i < b.readableBytes → j < b.readableBytes → b.place? i = b.place? j →
        (b.content m)[i]? = (b.content m)[j]? := by
  constructor
  · intro hkept i j hi hj hplace
    rw [← hkept, h.getElem?_front hi, h.getElem?_front hj]
    exact byteAt_of_place? hplace
  · intro hsame
    have hlength : ((b.discardReadBytes m).1.content (b.discardReadBytes m).2).length =
        (b.content m).length := by
      rw [h.discardReadBytes.backed.length_content, h.length_content, discardReadBytes_fst]
      exact Nat.sub_zero _
    refine List.ext_getElem? fun i => ?_
    by_cases hi : i < b.readableBytes
    · -- What is seen at `i` is the last byte that went there, and that is the same byte.
      rcases exists_last b.place? hi with ⟨j, hj, hplace, hlast⟩
      rw [h.getElem?_front hi, h.byteAt_front hi hj hplace.symm hlast]
      exact (hsame i j hi hj hplace.symm).symm
    · rw [← h.length_content, Nat.not_lt] at hi
      rw [List.getElem?_eq_none hi, List.getElem?_eq_none (hlength ▸ hi)]

/-- What compaction makes of a buffer, whatever its regions are. -/
theorem compacted (h : b.Backed m) :
    b.Compacted m (b.discardReadBytes m).1 (b.discardReadBytes m).2 := by
  have hapart : b.regions.Pairwise Region.Apart →
      (b.discardReadBytes m).1.content (b.discardReadBytes m).2 = b.content m := by
    intro hapart
    refine h.content_discardReadBytes_iff.mpr fun i j hi _ hplace => ?_
    have hroom := h.valid.reader_add_le (Nat.le_refl b.readableBytes)
    rw [eq_of_place? hapart (show i < b.capacity by omega) hplace]
  exact {
    cursors := discardReadBytes_fst b m
    capacity := by rw [discardReadBytes_fst]; rfl
    last := fun i j hi hj hplace hlast =>
      (h.getElem?_front hi).trans (h.byteAt_front hi hj hplace hlast)
    kept_iff := h.content_discardReadBytes_iff
    apart := hapart
    flat := fun hflat => hapart (pairwise_apart_of_flat hflat) }

end Backed

end Buffer

end Conduit
