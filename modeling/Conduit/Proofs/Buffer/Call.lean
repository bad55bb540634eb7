import Conduit.Proofs.Buffer.Access
import Conduit.Proofs.Buffer.Bounds

/-!
# What Calls Come To

What each call on a buffer comes to, on a buffer that rests in its memory: what the
one expression for it says, or the error that it says with the buffer and its memory
as they were. The second half is where calls are more than their result. A call that
fails has changed nothing although it could have, because each of them makes all its
checks before it moves a cursor or writes a byte.

A call that grows the buffer goes on with other storage than it started with, so
growing also says that the buffer rests afterwards, and how much room it has.

## Theorems

* `Call.run_self`, `Call.run_self_bind`, `Call.run_update`, `Call.run_update_bind`: Looking
  at the buffer, and changing it.
* `Call.ask_ok`, `Call.ask_answer`, `Call.ask_settle`: Questions to memory.
* `Call.upon_ok`: A call that is made of a given buffer.
* `Call.setReader_eq`, `Call.setWriter_eq`, `Call.setCursors_eq`: Cursors, on any buffer.
* `Backed.rests`, `Rests.moved`: Buffers that rest.
* `Rests.reallocate`, `Rests.ensureWritable`, `Rests.ensureWritableBytes`: Growing.
* `Rests.discardReadBytes`: Compaction, in place or not.
* `Rests.run_provided`: What is only done if there is something to do.
* `Rests.setBytes`, `Rests.setZero`, `Rests.writeSlice`, `Rests.writeBuffer`,
  `Rests.writeZero`, `Rests.writeBytesAhead`, `Rests.writeZeroAhead`: Writing.
* `Rests.checkedReadable`, `Rests.skip`, `Rests.readInto`, `Rests.readBytes`,
  `Rests.readSlice`: Taking bytes off.
* `Rests.tryRead`: Numbers that are read and passed over.
* `Access.made_bufferOf`: A buffer with bytes in it from a factory.
-/

namespace Conduit

open Procedure Region

namespace Call

variable {α β : Type} {f : Buffer → Access α} {b : Buffer} {m m' : Memory} {a : α}

@[simp] theorem run_self (g : Grip) : self.run g = (.ok g.buffer, g) := rfl

@[simp] theorem run_self_bind (k : Buffer → Call β) (g : Grip) :
    (self >>= k).run g = (k g.buffer).run g := rfl

@[simp] theorem run_update (f : Buffer → Buffer) (b : Buffer) (m : Memory) :
    (update f).run ⟨b, m⟩ = (.ok (), ⟨f b, m⟩) := rfl

@[simp] theorem run_update_bind (f : Buffer → Buffer) (k : Unit → Call β) (b : Buffer)
    (m : Memory) : (update f >>= k).run ⟨b, m⟩ = (k ()).run ⟨f b, m⟩ := rfl

/-- A question that is answered. -/
theorem ask_ok (h : (f b).run m = (.ok a, m')) : (ask f).run ⟨b, m⟩ = (.ok a, ⟨b, m'⟩) := by
  change (((f b).run m).1, (⟨b, ((f b).run m).2⟩ : Grip)) = _
  rw [h]

/-- A question that leaves memory alone. -/
theorem ask_answer {x : Except Error α} (h : (f b).run m = answer m x) :
    (ask f).run ⟨b, m⟩ = answer ⟨b, m⟩ x := by
  change (((f b).run m).1, (⟨b, ((f b).run m).2⟩ : Grip)) = _
  rw [h]
  cases x <;> rfl

/-- A question that makes something. -/
theorem ask_settle {x : Except Error (α × Memory)} (h : (f b).run m = settle m x) :
    (ask f).run ⟨b, m⟩ = settle ⟨b, m⟩ (x.map fun made => (made.1, ⟨b, made.2⟩)) := by
  change (((f b).run m).1, (⟨b, ((f b).run m).2⟩ : Grip)) = _
  rw [h]
  cases x <;> rfl

/-- A call that is made of a given buffer. -/
theorem upon_ok {c : Call α} {g : Grip} (h : c.run ⟨b, m⟩ = (.ok a, g)) :
    (upon b c).run m = (.ok (a, g.buffer), g.memory) := by
  rw [upon]
  dsimp only
  rw [h]

/-! ### Cursors -/

theorem setReader_eq (index : Nat) (b : Buffer) (m : Memory) :
    (setReader index).run ⟨b, m⟩ =
      settle ⟨b, m⟩ ((b.setReader index).map fun c => ((), ⟨c, m⟩)) := by
  rw [setReader, run_self_bind, Buffer.setReader]
  split <;> rfl

theorem setWriter_eq (index : Nat) (b : Buffer) (m : Memory) :
    (setWriter index).run ⟨b, m⟩ =
      settle ⟨b, m⟩ ((b.setWriter index).map fun c => ((), ⟨c, m⟩)) := by
  rw [setWriter, run_self_bind, Buffer.setWriter, Buffer.capacity_storage]
  split <;> rfl

theorem setCursors_eq (reader writer : Nat) (b : Buffer) (m : Memory) :
    (setCursors reader writer).run ⟨b, m⟩ =
      settle ⟨b, m⟩ ((b.setCursors reader writer).map fun c => ((), ⟨c, m⟩)) := by
  rw [setCursors, run_self_bind, Buffer.setCursors, Buffer.capacity_storage]
  split <;> rfl

end Call

namespace Buffer

/-- A buffer whose regions are all in their cells rests there. -/
theorem Backed.rests {b : Buffer} {m : Memory} (h : b.Backed m) : b.Rests m :=
  ⟨h.valid, fun r hr _ => h.fits r hr⟩

namespace Rests

variable {α : Type} {b : Buffer} {m : Memory} {index length : Nat} {src : Bytes}

/-- A buffer whose cursors have moved rests where it did. -/
theorem moved {c : Buffer} (h : b.Rests m) (hvalid : c.Valid) (hregions : c.regions = b.regions) :
    c.Rests m := ⟨hvalid, hregions ▸ h.fits⟩

/-! ### Growing -/

/-- A buffer that takes a larger cell rests in it. -/
theorem reallocate (h : b.Rests m) {capacity : Nat} (hmax : capacity ≤ b.maxCapacity) :
    ∃ rs m', b.reallocate m capacity = ({ b with regions := rs }, m') ∧
      (Call.reallocate capacity).run ⟨b, m⟩ = (.ok (), ⟨{ b with regions := rs }, m'⟩) ∧
      ({ b with regions := rs } : Buffer).Rests m' ∧ span rs = max b.capacity capacity := by
  rw [Buffer.reallocate, Call.reallocate, Call.run_self_bind, capacity_storage]
  by_cases hmore : capacity ≤ b.capacity
  · rw [if_pos hmore, if_pos hmore]
    exact ⟨_, _, rfl, rfl, h, (Nat.max_eq_left hmore).symm⟩
  · have hwhole : 0 + b.capacity ≤ b.capacity := Nat.le_of_eq (Nat.zero_add _)
    have hroom : b.capacity ≤ capacity := Nat.le_of_not_le hmore
    have hread := Call.ask_ok (f := fun c => c.storage.read 0 b.capacity) (h.read hwhole)
    have hsize : ((b.peek m 0 b.capacity).toArray ++
        Array.replicate (capacity - b.capacity) (0 : UInt8)).size = capacity := by
      rw [Array.size_append, List.size_toArray, Array.size_replicate, h.length_peek hwhole]
      omega
    rw [if_neg hmore, if_neg hmore, bind_of_ok hread, bind_of_ok (minus_of_le hroom _)]
    -- Of the new cell only its size matters from here on.
    generalize (b.peek m 0 b.capacity).toArray ++ Array.replicate (capacity - b.capacity) 0 = cell
      at hsize
    have hspan : span [(m.alloc cell).1] = capacity := hsize
    have hwriter := h.valid.writer_le_capacity
    have hclaim : (Call.ask fun _ => Memory.claim cell).run ⟨b, m⟩ =
        (.ok (m.alloc cell).1, ⟨b, (m.alloc cell).2⟩) := Call.ask_ok rfl
    rw [bind_of_ok hclaim]
    refine ⟨[(m.alloc cell).1], (m.alloc cell).2, rfl, rfl,
      ⟨⟨h.valid.reader_le_writer, ?_, ?_⟩, fun r hr _ => ?_⟩, by omega⟩
    · exact (by omega : b.writer ≤ span [(m.alloc cell).1])
    · exact (by omega : span [(m.alloc cell).1] ≤ b.maxCapacity)
    · rw [List.mem_singleton.mp hr]
      exact (Memory.loadRegion_alloc_self m cell).1

/-- A buffer that is asked for room rests afterwards, and has the room if it says so. -/
theorem ensureWritable (h : b.Rests m) (wanted : Nat) (force : Bool) :
    ∃ v rs m', b.ensureWritable m wanted force = (v, { b with regions := rs }, m') ∧
      (Call.ensureWritable wanted force).run ⟨b, m⟩ = (.ok v, ⟨{ b with regions := rs }, m'⟩) ∧
      ({ b with regions := rs } : Buffer).Rests m' ∧
      (v = .sufficient ∨ v = .grew → b.writer + wanted ≤ span rs) := by
  have hwriter := h.valid.writer_le_capacity
  have hcapacity := h.valid.capacity_le_max
  rw [Buffer.ensureWritable, Call.ensureWritable,
    bind_of_ok (Call.ask_ok (f := Access.writableBytes) h.writableBytes)]
  by_cases hfits : wanted ≤ b.writableBytes
  · rw [if_pos hfits, if_pos hfits]
    rw [Buffer.writableBytes] at hfits
    exact ⟨_, _, _, rfl, rfl, h, fun _ => (by omega : b.writer + wanted ≤ b.capacity)⟩
  rw [if_neg hfits, if_neg hfits,
    bind_of_ok (Call.ask_ok (f := Access.maxWritableBytes) h.maxWritableBytes), Call.run_self_bind]
  by_cases hroom : b.maxWritableBytes < wanted
  · rw [if_pos hroom, if_pos hroom, capacity_storage]
    by_cases hforce : (!force || b.capacity == b.maxCapacity) = true
    · rw [if_pos hforce, if_pos hforce]
      exact ⟨_, _, _, rfl, rfl, h, fun hv => by rcases hv with hv | hv <;> cases hv⟩
    · rcases h.reallocate (Nat.le_refl b.maxCapacity) with ⟨rs, m', hrealloc, hrun, hrests, -⟩
      rw [if_neg hforce, if_neg hforce, hrealloc, bind_of_ok hrun]
      -- Forced to its ceiling, the buffer says that it is not enough, and promises nothing.
      exact ⟨_, _, _, rfl, rfl, hrests, fun hv => by rcases hv with hv | hv <;> cases hv⟩
  · have hroom' := hroom
    rw [Buffer.maxWritableBytes] at hroom'
    have hgrown : b.writer + wanted ≤ b.grownCapacity (b.writer + wanted) :=
      Capacity.le_grown (by omega)
    rcases h.reallocate (Capacity.grown_le (b.writer + wanted) b.maxCapacity) with
      ⟨rs, m', hrealloc, hrun, hrests, hspan⟩
    rw [if_neg hroom, if_neg hroom, grownCapacity, hrealloc, bind_of_ok hrun]
    rw [grownCapacity] at hgrown
    exact ⟨_, _, _, rfl, rfl, hrests, fun _ => by omega⟩

theorem ensureWritableBytes (h : b.Rests m) (wanted : Nat) :
    (Call.ensureWritableBytes wanted).run ⟨b, m⟩ =
      settle ⟨b, m⟩
        ((b.ensureWritableBytes m wanted).map fun grown => ((), ⟨grown.1, grown.2⟩)) := by
  rw [Buffer.ensureWritableBytes, Call.ensureWritableBytes,
    bind_of_ok (Call.ask_ok (f := Access.writableBytes) h.writableBytes)]
  by_cases hfits : wanted ≤ b.writableBytes
  · rw [if_pos hfits, if_pos hfits]
    rfl
  rw [if_neg hfits, if_neg hfits,
    bind_of_ok (Call.ask_ok (f := Access.maxWritableBytes) h.maxWritableBytes), Call.run_self_bind]
  by_cases hroom : b.maxWritableBytes < wanted
  · rw [if_pos hroom, if_pos hroom]
    rfl
  · rcases h.reallocate (Capacity.grown_le (b.writer + wanted) b.maxCapacity) with
      ⟨rs, m', hrealloc, hrun, -, -⟩
    rw [if_neg hroom, if_neg hroom, grownCapacity, hrealloc, hrun]
    rfl

/-- The readable bytes are moved to the front, if there are any; without them there is nothing
    to write. -/
theorem discardReadBytes (h : b.Rests m) :
    Call.discardReadBytes.run ⟨b, m⟩ =
      (.ok (), ⟨(b.discardReadBytes m).1, (b.discardReadBytes m).2⟩) := by
  have horder := h.valid.reader_le_writer
  rw [Call.discardReadBytes, Call.run_self_bind, Buffer.discardReadBytes]
  by_cases hstart : b.reader = 0
  · rw [if_pos hstart, if_pos hstart]
    rfl
  rw [if_neg hstart, if_neg hstart]
  have hmove : (provided (b.reader ≠ b.writer)
      (Call.ask fun c => c.storage.moveToFront b.reader c.writer)).run ⟨b, m⟩ =
        (.ok (), ⟨b, m.store b.regions 0 (b.content m)⟩) := by
    rw [provided]
    by_cases hsome : b.reader ≠ b.writer
    · rw [if_pos hsome]
      exact Call.ask_ok (f := fun c => c.storage.moveToFront b.reader c.writer)
        (h.moveToFront horder h.valid.writer_le_capacity hsome)
    · -- With nothing to read there is nothing to move, and the cursors go back all the same.
      have hnone : b.content m = [] := by
        rw [content, Buffer.readableBytes, Decidable.not_not.mp hsome, Nat.sub_self, peek,
          Memory.load, clip_zero, Memory.loadAll_nil]
      rw [if_neg hsome, hnone, Memory.store_nil]
      rfl
  rw [bind_of_ok hmove, bind_of_ok (minus_of_le horder _)]
  rfl

/-! ### Writing -/

theorem setBytes (h : b.Rests m) (index : Nat) (src : Bytes) :
    (Call.setBytes index src).run ⟨b, m⟩ =
      settle ⟨b, m⟩ ((b.setBytes m index src).map fun m' => ((), ⟨b, m'⟩)) := by
  have hcheck := Call.ask_answer (f := (Access.checkIndex · index src.length))
    (Access.checkIndex_eq b index src.length m)
  rw [Call.setBytes, Buffer.setBytes, run_bind, hcheck]
  cases hok : b.checkWindow index src.length with
  | error cause => rfl
  | ok _ =>
      exact Call.ask_ok (f := fun c => c.storage.write index src) (h.write (le_of_checkWindow hok))

/-- What is done if there is something to do, and comes to nothing otherwise. -/
theorem run_provided {c : Prop} [Decidable c] {p : Call Unit} {g g' : Grip}
    (hp : c → p.run g = (.ok (), g')) (hnot : ¬ c → g' = g) :
    (provided c p).run g = (.ok (), g') := by
  rw [provided]
  by_cases hc : c
  · rw [if_pos hc, hp hc]
  · rw [if_neg hc, hnot hc]
    rfl

theorem setZero (h : b.Rests m) (index length : Nat) :
    (Call.setZero index length).run ⟨b, m⟩ =
      (.ok (b.setZero m index length).1, ⟨b, (b.setZero m index length).2⟩) := by
  rw [Call.setZero, Call.run_self_bind, Buffer.setZero, capacity_storage]
  dsimp only
  -- As many zeros as there are places from the index on.
  generalize hn : min length (b.capacity - index) = n
  have hfill : (provided (0 < n) (Call.ask fun c => c.storage.fill index n 0)).run ⟨b, m⟩ =
      (.ok (), ⟨b, m.store b.regions index (List.replicate n 0)⟩) := by
    refine run_provided (fun hsome => ?_) fun hnone => ?_
    · exact Call.ask_ok (f := fun c => c.storage.fill index n 0) (h.fill (by omega) 0)
    · rw [Nat.eq_zero_of_not_pos hnone, List.replicate_zero, Memory.store_nil]
  rw [bind_of_ok hfill]
  rfl

theorem writeSlice (h : b.Rests m) (src : Bytes) :
    (Call.writeSlice src).run ⟨b, m⟩ =
      (.ok (b.write m src).1, ⟨(b.write m src).2.1, (b.write m src).2.2⟩) := by
  rw [Call.writeSlice, Buffer.write]
  by_cases hnone : src.isEmpty = true
  · rw [if_pos hnone, if_pos hnone]
    rfl
  rcases h.ensureWritable src.length false with ⟨v, rs, m', hensure, hrun, hrests, hroom⟩
  rw [if_neg hnone, if_neg hnone, hensure, bind_of_ok hrun]
  -- The bytes are only written where the call has said that there is room.
  have hwrite : v = .sufficient ∨ v = .grew →
      (Call.ask fun c => c.storage.write c.writer src).run ⟨{ b with regions := rs }, m'⟩ =
        (.ok (), ⟨{ b with regions := rs }, m'.store rs b.writer src⟩) := fun hv =>
    Call.ask_ok (f := fun c => c.storage.write c.writer src) (hrests.write (hroom hv))
  cases v with
  | sufficient => exact bind_of_ok (hwrite (Or.inl rfl))
  | grew => exact bind_of_ok (hwrite (Or.inr rfl))
  | grewToMax | exhausted => rfl

/-- The source is read before anything is written, wherever its bytes lie. -/
theorem writeBuffer {c : Buffer} (h : b.Rests m) (hc : c.Rests m) :
    (Call.writeBuffer c).run ⟨b, m⟩ =
      (.ok ((c.drainInto b m).1, (c.drainInto b m).2.1),
        ⟨(c.drainInto b m).2.2.1, (c.drainInto b m).2.2.2⟩) := by
  rw [Call.writeBuffer, drainInto,
    bind_of_ok (Call.ask_ok (f := fun _ => Access.readableBytes c) hc.readableBytes)]
  by_cases hnone : c.readableBytes = 0
  · have hcontent : c.content m = [] := by
      rw [content, hnone, peek, Memory.load, clip_zero, Memory.loadAll_nil]
    rw [if_pos hnone, hcontent]
    rfl
  · -- The bytes are put aside, so that nothing is lost where both buffers share memory.
    have hstaged := Call.ask_ok (b := b) (f := fun _ => c.storage.read c.reader c.readableBytes)
      (hc.read (hc.valid.reader_add_le (Nat.le_refl _)))
    rw [if_neg hnone, bind_of_ok hstaged, bind_of_ok (h.writeSlice _)]
    rfl

theorem writeZero (h : b.Rests m) (length : Nat) :
    (Call.writeZero length).run ⟨b, m⟩ =
      (.ok (b.writeZero m length).1, ⟨(b.writeZero m length).2.1, (b.writeZero m length).2.2⟩) := by
  rw [Call.writeZero, Buffer.writeZero]
  by_cases hnone : length = 0
  · -- Asking for no room at all is granted without touching anything.
    have hensure : b.ensureWritable m 0 true = (.sufficient, b, m) := if_pos (Nat.zero_le _)
    rw [if_pos hnone, hnone, hensure]
    dsimp only
    rw [Nat.zero_min, List.replicate_zero, Memory.store_nil]
    rfl
  rcases h.ensureWritable length true with ⟨v, rs, m', hensure, hrun, hrests, -⟩
  rw [if_neg hnone, hensure, bind_of_ok hrun,
    bind_of_ok (Call.ask_ok (f := Access.writableBytes) hrests.writableBytes)]
  dsimp only
  generalize hn : min length ({ b with regions := rs } : Buffer).writableBytes = n
  have hfill : (provided (0 < n) (do
      Call.ask fun c => c.storage.fill c.writer n 0
      Call.update fun c => { c with writer := c.writer + n })).run ⟨{ b with regions := rs }, m'⟩ =
        (.ok (), ⟨{ b with regions := rs, writer := b.writer + n },
          m'.store rs b.writer (List.replicate n 0)⟩) := by
    refine run_provided (fun hsome => ?_) fun hnone => ?_
    · have hin : b.writer + n ≤ ({ b with regions := rs } : Buffer).capacity := by
        have hwriter := hrests.valid.writer_le_capacity
        rw [Buffer.writableBytes] at hn
        dsimp only at hn hwriter
        omega
      exact bind_of_ok (Call.ask_ok (f := fun c => c.storage.fill c.writer n 0) (hrests.fill hin 0))
    · rw [Nat.eq_zero_of_not_pos hnone, List.replicate_zero, Memory.store_nil, Nat.add_zero]
  rw [bind_of_ok hfill]
  rfl

theorem writeBytesAhead (h : b.Rests m) (src : Bytes) :
    (Call.writeBytesAhead src).run ⟨b, m⟩ =
      settle ⟨b, m⟩ ((b.writeAhead m src).map fun written => ((), ⟨written.1, written.2⟩)) := by
  have horder := h.valid.reader_le_writer
  have hwriter := h.valid.writer_le_capacity
  rw [Call.writeBytesAhead, Call.run_self_bind, writeAhead]
  by_cases hless : b.reader < src.length
  · rw [if_pos hless, if_pos hless]
    rfl
  · rw [if_neg hless, if_neg hless, bind_of_ok (minus_of_le (Nat.le_of_not_lt hless) _),
      Call.run_update_bind]
    have hmoved : ({ b with reader := b.reader - src.length } : Buffer).Rests m :=
      h.moved ⟨Nat.le_trans (Nat.sub_le _ _) horder, hwriter, h.valid.capacity_le_max⟩ rfl
    have hin : b.reader - src.length + src.length ≤
        ({ b with reader := b.reader - src.length } : Buffer).capacity :=
      (by omega : b.reader - src.length + src.length ≤ b.capacity)
    exact Call.ask_ok (f := fun c => c.storage.write c.reader src) (hmoved.write hin)

theorem writeZeroAhead (h : b.Rests m) (length : Nat) :
    (Call.writeZeroAhead length).run ⟨b, m⟩ =
      (.ok (b.writeZeroAhead m length).1,
        ⟨(b.writeZeroAhead m length).2.1, (b.writeZeroAhead m length).2.2⟩) := by
  have horder := h.valid.reader_le_writer
  have hwriter := h.valid.writer_le_capacity
  rw [Call.writeZeroAhead, Call.run_self_bind, Buffer.writeZeroAhead]
  dsimp only
  -- The reader goes back by as much as there is before it, and no further.
  generalize hn : min length b.reader = n
  have hfill : (provided (0 < n) (do
      let reader ← minus b.reader n
      Call.update fun c => { c with reader := reader }
      Call.ask fun c => c.storage.fill c.reader n 0)).run ⟨b, m⟩ =
        (.ok (), ⟨{ b with reader := b.reader - n },
          m.store b.regions (b.reader - n) (List.replicate n 0)⟩) := by
    refine run_provided (fun hsome => ?_) fun hnone => ?_
    · have hmoved : ({ b with reader := b.reader - n } : Buffer).Rests m :=
        h.moved ⟨Nat.le_trans (Nat.sub_le _ _) horder, hwriter, h.valid.capacity_le_max⟩ rfl
      have hin : b.reader - n + n ≤ ({ b with reader := b.reader - n } : Buffer).capacity :=
        (by omega : b.reader - n + n ≤ b.capacity)
      rw [bind_of_ok (minus_of_le (by omega) _), Call.run_update_bind]
      exact Call.ask_ok (f := fun c => c.storage.fill c.reader n 0) (hmoved.fill hin 0)
    · rw [Nat.eq_zero_of_not_pos hnone, List.replicate_zero, Memory.store_nil, Nat.sub_zero]
  rw [bind_of_ok hfill]
  rfl

/-! ### Taking bytes off -/

/-- What is done with readable bytes after they have been checked. -/
theorem checkedReadable {β γ : Type} {c : Call β} {x : Except Error γ} {k : γ → β × Grip}
    (h : b.Rests m) (length : Nat)
    (hc : length ≤ b.readableBytes → c.run ⟨b, m⟩ = settle ⟨b, m⟩ (x.map k)) :
    (do Call.ask (Access.checkReadable · length); c : Call β).run ⟨b, m⟩ =
      settle ⟨b, m⟩ ((do b.checkReadable length; x : Except Error γ).map k) := by
  have hcheck := Call.ask_answer (f := (Access.checkReadable · length)) (h.checkReadable length)
  rw [run_bind, hcheck]
  rcases Nat.lt_or_ge b.readableBytes length with hless | hmore
  · rw [checkReadable_error hless]
    rfl
  · rw [checkReadable_ok hmore]
    -- What has been checked is there.
    exact hc hmore

theorem skip (h : b.Rests m) (length : Nat) :
    (Call.skip length).run ⟨b, m⟩ = settle ⟨b, m⟩ ((b.skip length).map fun c => ((), ⟨c, m⟩)) :=
  h.checkedReadable length fun _ => rfl

theorem readInto (h : b.Rests m) (length : Nat) :
    (Call.readInto length).run ⟨b, m⟩ =
      settle ⟨b, m⟩ ((b.readInto m length).map fun taken => (taken.1, ⟨taken.2, m⟩)) :=
  h.checkedReadable length fun hin =>
    bind_of_ok (Call.ask_ok (f := fun c => c.storage.read c.reader length)
      (h.read (h.valid.reader_add_le hin)))

theorem readBytes (h : b.Rests m) (length : Nat) :
    (Call.readBytes length).run ⟨b, m⟩ =
      settle ⟨b, m⟩ ((b.readBytes m length).map fun taken =>
        (taken.1, ⟨taken.2.1, taken.2.2⟩)) := by
  refine h.checkedReadable length fun _ => ?_
  have hcopy := Call.ask_settle (f := fun c => Access.copy c c.reader length)
    (h.copy b.reader length)
  rw [run_bind, hcopy]
  cases b.copy m b.reader length <;> rfl

theorem readSlice (h : b.Rests m) (length : Nat) :
    (Call.readSlice length).run ⟨b, m⟩ =
      settle ⟨b, m⟩ ((b.readSlice length).map fun taken => (taken.1, ⟨taken.2, m⟩)) := by
  refine h.checkedReadable length fun _ => ?_
  have hslice := Call.ask_answer (f := fun c => Access.slice c c.reader length)
    (h.slice b.reader length)
  rw [run_bind, hslice]
  cases b.slice b.reader length <;> rfl

/-! ### Numbers -/

/-- The next number of a kind, and the buffer after it. -/
theorem tryRead (f : Format α) (h : b.Rests m) :
    (Call.tryRead f).run ⟨b, m⟩ =
      settle ⟨b, m⟩ ((do
        b.checkReadable f.width
        let bytes ← b.getBytes m b.reader f.width
        return (f.decode b.order bytes, { b with reader := b.reader + f.width }) :
          Except Error (α × Buffer)).map fun read => (read.1, ⟨read.2, m⟩)) := by
  refine h.checkedReadable f.width fun _ => ?_
  have hget := Call.ask_answer (f := fun c => Access.get f c c.reader) (h.get f b.reader)
  rw [run_bind, hget]
  cases b.getBytes m b.reader f.width <;> rfl

end Rests

end Buffer

/-- A buffer from a factory, with bytes in it. -/
theorem Access.made_bufferOf (f : BufferFactory) (bytes : Bytes) (m : Memory) :
    (Access.bufferOf f bytes).run m = made (f.bufferOf m bytes) := by
  have hmade := Buffer.Made.growable m f.order bytes.length
  have hrests : (Buffer.growable m f.order bytes.length).1.Rests
      (Buffer.growable m f.order bytes.length).2 :=
    ⟨hmade.1.valid, fun r hr _ => hmade.1.fits r hr⟩
  rw [Access.bufferOf, bind_of_ok (made_growable f.order bytes.length m),
    bind_of_ok (Call.upon_ok (hrests.writeSlice bytes))]
  rfl

end Conduit
