import Conduit.Proofs.Buffer.Content
import Conduit.Proofs.Buffer.Reach

/-!
# What Buffers Answer

What each question to a buffer comes to: the bytes, the view or the number that the
one expression for it says, with memory as it was, or the error that it says. That is
so for every buffer that rests in its memory, whose cursors are in order and whose
windows lie in their cells; and since there is no third case, no size goes below zero
on the way and no byte is looked for that is not there.

## Main definitions

* `Procedure.settle`: What a procedure comes to that does all or nothing.
* `Procedure.answer`: What one comes to that leaves the state alone.
* `Access.made`: What one comes to that makes a buffer.

## Theorems

* `answer_bind`, `answer_bind_answer`, `run_each`: Sequences and rows, by their parts.
* `Access.checkIndex_eq`: The check of a stretch.
* `Rests.readableBytes`, `Rests.writableBytes`, `Rests.maxWritableBytes`,
  `Rests.isReadable`, `Rests.isWritable`, `Rests.checkReadable`: Sizes, none of which goes
  below zero.
* `Rests.le_of_checkWindow`, `Rests.checked`: What is done after a check.
* `Rests.getBytes`, `Rests.toVec`, `Rests.hexDumpOf`, `Rests.get`: Bytes and numbers.
* `Rests.slice`, `Rests.readableRegions`, `Rests.readableSlice`, `Rests.map_ofRegion`,
  `Rests.decompose`, `Rests.components`: Views.
* `Rests.findUp`, `Rests.findDown`, `Rests.le_findUp`, `Rests.indexOfBy`,
  `Rests.bytesBeforeBy`: Scans.
* `Rests.compareTo`, `Rests.equals`, `Rests.hashCode`: Comparisons.
* `Access.made_fromVec`, `Access.made_growable`, `Access.made_fixed`, `Access.made_wrap`,
  `Access.made_copied`, `Access.each_claim`, `Access.made_wrapParts`: Buffers from plain
  bytes.
* `Access.checkedTotal_from`, `Access.checkedTotal_eq`, `Access.readables_eq`,
  `Access.commonOrder_eq`, `Access.flatMap_readable`: What several sources have in common.
* `Access.wrapAll_eq`, `Access.copyParts_eq`, `Access.copyAll_eq`: Buffers from several.
* `Rests.copy`, `Rests.copyOf`: Copies of a buffer.
-/

namespace Conduit

namespace Procedure

variable {σ α β γ : Type} {p : Procedure σ α} {f : α → Procedure σ β} {s : σ}

/-- What a procedure comes to that does all or nothing: if it fails, the state is as it was. -/
def settle (s : σ) : Except Error (α × σ) → Except Halt α × σ
  | .ok (a, s') => (.ok a, s')
  | .error cause => (.error (.failed cause), s)

/-- What a procedure comes to that leaves the state alone. -/
def answer (s : σ) : Except Error α → Except Halt α × σ
  | .ok a => (.ok a, s)
  | .error cause => (.error (.failed cause), s)

/-- What comes of asking, and then doing all or nothing. -/
theorem answer_bind {x : Except Error α} {y : α → Except Error (β × σ)} (hp : p.run s = answer s x)
    (hf : ∀ a, x = .ok a → (f a).run s = settle s (y a)) :
    (p >>= f).run s = settle s (x >>= y) := by
  cases x with
  | error cause => exact bind_of_error hp
  | ok a => exact (bind_of_ok hp).trans (hf a rfl)

theorem answer_bind_answer {x : Except Error α} {y : α → Except Error β} (hp : p.run s = answer s x)
    (hf : ∀ a, x = .ok a → (f a).run s = answer s (y a)) :
    (p >>= f).run s = answer s (x >>= y) := by
  cases x with
  | error cause => exact bind_of_error hp
  | ok a => exact (bind_of_ok hp).trans (hf a rfl)

/-- What comes of the same for every element, if the state is left alone. -/
theorem run_each {g : α → β} {f : α → Procedure σ β} {as : List α}
    (h : ∀ a ∈ as, (f a).run s = (.ok (g a), s)) : (each f as).run s = (.ok (as.map g), s) := by
  induction as with
  | nil => rfl
  | cons a as ih =>
      rw [each, bind_of_ok (h a List.mem_cons_self),
        bind_of_ok (ih fun b hb => h b (List.mem_cons_of_mem a hb)), run_pure, List.map_cons]

end Procedure

open Procedure Region

variable {m : Memory} {b : Buffer} {index length : Nat}

/-- The check of a stretch, on any buffer. -/
theorem Access.checkIndex_eq (b : Buffer) (index length : Nat) (m : Memory) :
    (Access.checkIndex b index length).run m = answer m (b.checkWindow index length) := by
  rw [checkIndex, Buffer.checkWindow, Buffer.capacity_storage]
  split <;> rfl

namespace Buffer.Rests

/-! ### Sizes and checks -/

theorem readableBytes (h : b.Rests m) :
    (Access.readableBytes b).run m = (.ok b.readableBytes, m) :=
  minus_of_le h.valid.reader_le_writer m

theorem writableBytes (h : b.Rests m) :
    (Access.writableBytes b).run m = (.ok b.writableBytes, m) := by
  rw [Access.writableBytes, capacity_storage]
  exact minus_of_le h.valid.writer_le_capacity m

theorem maxWritableBytes (h : b.Rests m) :
    (Access.maxWritableBytes b).run m = (.ok b.maxWritableBytes, m) :=
  minus_of_le (Nat.le_trans h.valid.writer_le_capacity h.valid.capacity_le_max) m

theorem isReadable (h : b.Rests m) : (Access.isReadable b).run m = (.ok b.isReadable, m) := by
  rw [Access.isReadable, bind_of_ok h.readableBytes]
  rfl

theorem isWritable (h : b.Rests m) : (Access.isWritable b).run m = (.ok b.isWritable, m) := by
  rw [Access.isWritable, bind_of_ok h.writableBytes]
  rfl

theorem checkReadable (h : b.Rests m) (length : Nat) :
    (Access.checkReadable b length).run m = answer m (b.checkReadable length) := by
  rw [Access.checkReadable, bind_of_ok h.readableBytes]
  rcases Nat.lt_or_ge b.readableBytes length with hless | hmore
  · rw [if_pos hless, checkReadable_error hless]
    rfl
  · rw [if_neg (Nat.not_lt.mpr hmore), checkReadable_ok hmore]
    rfl

/-! ### Bytes -/

/-- A stretch that has passed the check is there. -/
theorem le_of_checkWindow (hok : b.checkWindow index length = .ok ()) :
    index + length ≤ b.capacity := by
  rcases Nat.lt_or_ge b.capacity (index + length) with hout | hin
  · rw [checkWindow_error hout] at hok
    cases hok
  · exact hin

/-- What is done with a stretch after it has been checked. -/
theorem checked {α : Type} {f : Access α} {y : Except Error α}
    (hf : index + length ≤ b.capacity → f.run m = answer m y) :
    (do Access.checkIndex b index length; f : Access α).run m =
      answer m (do b.checkWindow index length; y) :=
  answer_bind_answer (Access.checkIndex_eq b index length m) fun _ hok =>
    hf (le_of_checkWindow hok)

theorem getBytes (h : b.Rests m) (index length : Nat) :
    (Access.getBytes b index length).run m = answer m (b.getBytes m index length) :=
  checked fun hin => h.read hin

theorem toVec (h : b.Rests m) : (Access.toVec b).run m = (.ok (b.content m), m) := by
  rw [Access.toVec, bind_of_ok h.readableBytes, h.read (h.valid.reader_add_le (Nat.le_refl _))]
  rfl

theorem hexDumpOf (h : b.Rests m) (index length : Nat) :
    (Access.hexDumpOf b index length).run m = answer m (b.hexDumpOf m index length) :=
  answer_bind_answer (h.getBytes index length) fun _ _ => rfl

theorem get {α : Type} (f : Format α) (h : b.Rests m) (index : Nat) :
    (Access.get f b index).run m =
      answer m (do let bytes ← b.getBytes m index f.width; return f.decode b.order bytes) :=
  answer_bind_answer (h.getBytes index f.width) fun _ _ => rfl

/-! ### Views -/

theorem slice (h : b.Rests m) (index length : Nat) :
    (Access.slice b index length).run m = answer m (b.slice index length) :=
  checked fun hin => by rw [bind_of_ok (h.regions hin)]; rfl

theorem readableRegions (h : b.Rests m) :
    (Access.readableRegions b).run m = (.ok (clip b.regions b.reader b.readableBytes), m) := by
  rw [Access.readableRegions, bind_of_ok h.readableBytes,
    h.regions (h.valid.reader_add_le (Nat.le_refl _))]

theorem readableSlice (h : b.Rests m) :
    (Access.readableSlice b).run m = (.ok b.readableSlice, m) := by
  rw [Access.readableSlice, bind_of_ok h.readableBytes,
    bind_of_ok (h.regions (h.valid.reader_add_le (Nat.le_refl _)))]
  rfl

/-- A view of one piece of a stretch is a view of a list with one region. -/
theorem map_ofRegion (order : ByteOrder) (rs : List Region) (index length : Nat) :
    (clip rs index length).map (Access.ofRegion order) =
      (clip rs index length).map fun r => ofRegions order [r] := by
  refine List.map_congr_left fun r hr => ?_
  have hsome : [r].filter (fun r => 0 < r.length) = [r] :=
    List.filter_cons_of_pos (by simpa using length_pos_of_mem_clip hr)
  rw [ofRegions, hsome]
  rfl

theorem decompose (h : b.Rests m) (index length : Nat) :
    (Access.decompose b index length).run m = answer m (b.decompose index length) :=
  checked fun hin => by rw [bind_of_ok (h.regions hin), run_pure, map_ofRegion]; rfl

theorem components (h : b.Rests m) : (Access.components b).run m = (.ok b.components, m) := by
  rw [Access.components, capacity_storage, bind_of_ok (h.regions (Nat.le_of_eq (Nat.zero_add _))),
    run_pure, map_ofRegion]
  rfl

/-! ### Scans -/

section Scans

variable {τ : Type} (ask : Question τ)

theorem findUp (h : b.Rests m) {count : Nat} (hin : count ≠ 0 → index + count ≤ b.capacity)
    (t : τ) :
    Access.findUp b.storage ask index count t m = (.ok (b.findUp m ask index count t), m) := by
  induction count generalizing index t with
  | zero => rfl
  | succ count ih =>
      have hin := hin (Nat.succ_ne_zero count)
      have hat : index < Region.span b.regions := Nat.lt_of_lt_of_le (by omega) hin
      -- One byte is read at a time, and it is the one at the index.
      rcases exists_byteAt h.fits hat with ⟨byte, hbyte, hthere⟩
      rw [Access.findUp, h.read (by omega), Buffer.findUp, hthere, peek, Memory.load, hbyte]
      dsimp only [List.headD_cons]
      rcases ask byte t with ⟨yes | no, t'⟩
      · exact ih (fun _ => by omega) t'
      · rfl

theorem findDown (h : b.Rests m) {low count : Nat} (hin : count ≠ 0 → low + count ≤ b.capacity)
    (t : τ) :
    Access.findDown b.storage ask low count t m = (.ok (b.findDown m ask low count t), m) := by
  induction count generalizing t with
  | zero => rfl
  | succ count ih =>
      have hin := hin (Nat.succ_ne_zero count)
      have hat : low + count < Region.span b.regions := Nat.lt_of_lt_of_le (by omega) hin
      -- Going down, the byte below the bound is the next one.
      rcases exists_byteAt h.fits hat with ⟨byte, hbyte, hthere⟩
      rw [Access.findDown, h.read (by omega), Buffer.findDown, hthere, peek, Memory.load, hbyte]
      dsimp only [List.headD_cons]
      rcases ask byte t with ⟨yes | no, t'⟩
      · exact ih (fun _ => by omega) t'
      · rfl

/-- Whatever the bounds are, a scan asks about bytes that are there. -/
theorem indexOfBy (h : b.Rests m) (start stop : Nat) (t : τ) :
    (Access.indexOfBy b start stop ask t).run m = (.ok (b.indexOfBy m start stop ask t), m) := by
  rw [Access.indexOfBy, Buffer.indexOfBy, capacity_storage]
  by_cases horder : start ≤ stop
  · rw [if_pos horder, if_pos horder]
    -- The upper bound is cut off at the capacity, and so is the count.
    exact h.findUp ask (fun _ => by omega) t
  · rw [if_neg horder, if_neg horder]
    exact h.findDown ask (fun _ => by omega) t

/-- A scan upwards finds nothing below where it starts. -/
theorem le_findUp {count : Nat} {t t' : τ} {i : Nat}
    (hfound : b.findUp m ask index count t = (some i, t')) : index ≤ i := by
  induction count generalizing index t with
  | zero => cases hfound
  | succ count ih =>
      rw [Buffer.findUp] at hfound
      cases hbyte : m.byteAt b.regions index with
      | none =>
          rw [hbyte] at hfound
          cases hfound
      | some byte =>
          rw [hbyte] at hfound
          dsimp only at hfound
          rcases hask : ask byte t with ⟨yes | no, u⟩
          · rw [hask] at hfound
            -- What the rest of the scan finds lies above where the rest starts.
            exact Nat.le_of_succ_le (ih hfound)
          · rw [hask] at hfound
            cases hfound
            exact Nat.le_refl _

/-- What is found among the readable bytes is not before them. -/
theorem bytesBeforeBy (h : b.Rests m) (t : τ) :
    (Access.bytesBeforeBy b ask t).run m = (.ok (b.bytesBeforeBy m ask t), m) := by
  rw [Access.bytesBeforeBy, bind_of_ok (h.indexOfBy ask b.reader b.writer t), Buffer.bytesBeforeBy]
  rcases hfound : b.indexOfBy m b.reader b.writer ask t with ⟨_ | i, u⟩
  · rfl
  · rw [Buffer.indexOfBy, if_pos h.valid.reader_le_writer] at hfound
    -- The answer is counted from the reader on, and the difference is not negative.
    exact bind_of_ok (minus_of_le (le_findUp ask hfound) m)

end Scans

/-! ### Comparisons -/

section Comparisons

variable {c : Buffer}

theorem compareTo (h : b.Rests m) (hc : c.Rests m) :
    (Access.compareTo b c).run m = (.ok (b.compareTo c m), m) := by
  rw [Access.compareTo, bind_of_ok h.toVec, bind_of_ok hc.toVec]
  rfl

theorem equals (h : b.Rests m) (hc : c.Rests m) :
    (Access.equals b c).run m = (.ok (b.equals c m), m) := by
  rw [Access.equals, bind_of_ok h.readableBytes, bind_of_ok hc.readableBytes, Buffer.equals]
  by_cases hlength : b.readableBytes ≠ c.readableBytes
  · rw [if_pos hlength, if_pos hlength]
    rfl
  · rw [if_neg hlength, if_neg hlength]
    by_cases hwindow : b.reader = c.reader ∧ b.sharesWindow c
    · rw [if_pos hwindow, if_pos hwindow]
      rfl
    · rw [if_neg hwindow, if_neg hwindow, bind_of_ok (h.compareTo hc)]
      rfl

theorem hashCode (h : b.Rests m) : (Access.hashCode b).run m = (.ok (b.hashCode m), m) := by
  rw [Access.hashCode, bind_of_ok h.toVec]
  rfl

end Comparisons

end Buffer.Rests

/-! ### Buffers that are made -/

namespace Access

/-- What a procedure comes to that makes a buffer. -/
def made (result : Buffer × Memory) : Except Halt Buffer × Memory := (.ok result.1, result.2)

variable {order : ByteOrder} {bytes : Bytes} {sources : List Buffer}

/-- A buffer with its cursor and its bytes within their limits. -/
theorem made_fromVec {cell : Array UInt8} {writer maxCapacity : Nat} (hwriter : writer ≤ cell.size)
    (hsize : cell.size ≤ maxCapacity) :
    (fromVec order cell writer maxCapacity).run m =
      made (Buffer.ofBytes m order cell writer maxCapacity) := by
  rw [fromVec, if_pos ⟨hwriter, hsize⟩]
  rfl

theorem made_growable (order : ByteOrder) (capacity : Nat) (m : Memory) :
    (growable order capacity).run m = made (Buffer.growable m order capacity) :=
  made_fromVec (Nat.zero_le _) (by rw [Array.size_replicate]; exact Nat.le_max_right _ _)

theorem made_fixed (order : ByteOrder) (capacity : Nat) (m : Memory) :
    (fixed order capacity).run m = made (Buffer.fixed m order capacity) :=
  made_fromVec (Nat.zero_le _) (Nat.le_of_eq Array.size_replicate)

theorem made_wrap (order : ByteOrder) (bytes : Bytes) (m : Memory) :
    (wrap order bytes).run m = made (Buffer.wrap m order bytes) := by
  rw [wrap, Buffer.wrap]
  split
  · rfl
  · exact made_fromVec (Nat.le_refl _) (Nat.le_refl _)

theorem made_copied (order : ByteOrder) (bytes : Bytes) (m : Memory) :
    (copied order bytes).run m = made (Buffer.copied m order bytes) := by
  rw [copied, Buffer.copied]
  split
  · rfl
  · exact made_fromVec (Nat.le_refl _) (Nat.le_max_right _ _)

/-- A new cell for each part. -/
theorem each_claim (parts : List Bytes) (m : Memory) :
    (each (fun part : Bytes => Memory.claim part.toArray) parts).run m =
      (.ok (Buffer.allocAll m parts).1, (Buffer.allocAll m parts).2) := by
  induction parts generalizing m with
  | nil => rfl
  | cons part parts ih =>
      have hclaim : (Memory.claim part.toArray).run m =
          (.ok (m.alloc part.toArray).1, (m.alloc part.toArray).2) := rfl
      rw [each, bind_of_ok hclaim, bind_of_ok (ih _)]
      rfl

theorem made_wrapParts (order : ByteOrder) (parts : List Bytes) (m : Memory) :
    (wrapParts order parts).run m = made (Buffer.wrapParts m order parts) := by
  rw [wrapParts, bind_of_ok (each_claim _ m)]
  rfl

/-- The lengths pass the ceiling on the way if and only if they do together. -/
theorem checkedTotal_from {total : Nat} (lengths : List Nat) (h : total ≤ Capacity.defaultMax) :
    (checkedTotal total lengths).run m =
      answer m (if total + lengths.foldr (· + ·) 0 ≤ Capacity.defaultMax then
        .ok (total + lengths.foldr (· + ·) 0) else .error (.argument .totalOverflow)) := by
  induction lengths generalizing total with
  | nil => rw [List.foldr_nil, Nat.add_zero, if_pos h]; rfl
  | cons length lengths ih =>
      rw [checkedTotal, List.foldr_cons, ← Nat.add_assoc]
      -- A total that has passed the ceiling does not come back under it.
      by_cases hnext : total + length ≤ Capacity.defaultMax
      · rw [if_pos hnext, ih hnext]
      · rw [if_neg hnext, if_neg (by omega)]
        rfl

theorem checkedTotal_eq (lengths : List Nat) (m : Memory) :
    (checkedTotal 0 lengths).run m = answer m (Buffer.checkedTotal lengths) := by
  rw [checkedTotal_from lengths (Nat.zero_le _), Nat.zero_add]
  rfl

theorem readables_eq (h : ∀ b ∈ sources, b.Rests m) :
    (readables sources).run m = (.ok (sources.filter (·.isReadable)), m) := by
  induction sources with
  | nil => rfl
  | cons b bs ih =>
      rw [readables, bind_of_ok (h b List.mem_cons_self).isReadable,
        bind_of_ok (ih fun c hc => h c (List.mem_cons_of_mem b hc)), List.filter_cons]
      rfl

theorem commonOrder_eq (h : ∀ b ∈ sources, b.Rests m) :
    (commonOrder sources).run m = answer m (Buffer.commonOrder sources) := by
  rw [commonOrder, bind_of_ok (readables_eq h), Buffer.commonOrder]
  -- Both take the order of the first source that can be read and ask the others for it.
  generalize sources.filter (·.isReadable) = readable
  rcases readable with _ | ⟨first, rest⟩
  · rfl
  · dsimp only
    split <;> rfl

/-- What cannot be read adds no region. -/
theorem flatMap_readable (sources : List Buffer) :
    (sources.filter (·.isReadable)).flatMap (fun b => clip b.regions b.reader b.readableBytes) =
      sources.flatMap fun b => clip b.regions b.reader b.readableBytes := by
  induction sources with
  | nil => rfl
  | cons b bs ih =>
      by_cases hread : b.isReadable = true
      · rw [List.filter_cons_of_pos hread, List.flatMap_cons, List.flatMap_cons, ih]
      · have hnone : b.readableBytes = 0 := by simpa [Buffer.isReadable] using hread
        rw [List.filter_cons_of_neg hread, List.flatMap_cons, ih, hnone, clip_zero, List.nil_append]

theorem wrapAll_eq (h : ∀ b ∈ sources, b.Rests m) :
    (wrapAll sources).run m = answer m (Buffer.wrapAll sources) := by
  refine answer_bind_answer (commonOrder_eq h) fun order _ => ?_
  -- Only sources that can be read are asked for regions; the others would have none.
  have hkept : ∀ b ∈ sources.filter (·.isReadable), (readableRegions b).run m =
      (.ok (clip b.regions b.reader b.readableBytes), m) := fun b hb =>
    (h b (List.mem_filter.mp hb).1).readableRegions
  rw [bind_of_ok (readables_eq h), bind_of_ok (run_each hkept), ← flatMap_readable, List.flatMap]
  rfl

theorem copyParts_eq (order : ByteOrder) (parts : List Bytes) (m : Memory) :
    (copyParts order parts).run m = settle m (Buffer.copyParts m order parts) :=
  answer_bind (checkedTotal_eq _ m) fun _ _ => made_copied order parts.flatten m

theorem copyAll_eq (h : ∀ b ∈ sources, b.Rests m) :
    (copyAll sources).run m = settle m (Buffer.copyAll m sources) := by
  refine answer_bind (commonOrder_eq h) fun order _ => ?_
  rw [bind_of_ok (run_each fun b hb => (h b hb).readableBytes)]
  refine answer_bind (checkedTotal_eq _ m) fun _ _ => ?_
  rw [bind_of_ok (run_each fun b hb => (h b hb).toVec)]
  exact made_copied order _ m

end Access

namespace Buffer.Rests

/-- A copy of a stretch, in a cell of its own. -/
theorem copy (h : b.Rests m) (index length : Nat) :
    (Access.copy b index length).run m = settle m (b.copy m index length) := by
  refine answer_bind (Access.checkIndex_eq b index length m) fun _ hok => ?_
  have hin := le_of_checkWindow hok
  -- What is claimed for the copy is as long as the stretch, so the ceiling is not passed.
  have hsize : (b.peek m index length).toArray.size = length := h.length_peek hin
  rw [bind_of_ok (h.read hin)]
  exact Access.made_fromVec (Nat.le_of_eq hsize.symm)
    (Nat.le_trans (Nat.le_of_eq hsize) (Nat.le_max_right _ _))

theorem copyOf (h : b.Rests m) : (Access.copyOf b).run m = Access.made (b.copyOf m) := by
  rw [Access.copyOf, bind_of_ok h.toVec]
  exact Access.made_copied b.order (b.content m) m

end Buffer.Rests

end Conduit
