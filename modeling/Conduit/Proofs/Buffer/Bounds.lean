import Conduit.Buffer.Text
import Conduit.Buffer.Word
import Conduit.Proofs.Buffer.Address
import Conduit.Proofs.Buffer.Content
import Conduit.Proofs.Result

/-!
# Staying Within Bounds

A buffer is backed by a memory if its cursors are in order and its regions reach
past no cell. Nothing is asked of how its regions lie to each other, nor to those
of other buffers: a buffer may be laid over the same bytes twice, and most buffers
share their bytes with others.

Each operation takes a backed buffer to a backed one. What it does to memory is
summed up by `Step`: cells keep their sizes, new ones may come, and of the bytes
that were there only those at addresses of the buffer have changed. A buffer that
has grown looks at a cell that was not there before, so what it writes next is no
change to anything that was; that is what `own` is for, and why steps can be put
one after the other.

## Main definitions

* `Buffer.Backed`: A buffer in order, over regions that are there.
* `Memory.Becomes`: A memory after bytes of certain regions have been overwritten.
* `Buffer.Step`: What an operation does to a buffer and to memory.

## Theorems

* `Memory.Becomes.refl`, `Memory.Becomes.widen`, `Memory.Becomes.trans`: Nothing done,
  less done, and one thing after the other.
* `Memory.size_cells_storeAll`, `Memory.becomes_store`, `Memory.store_nil`,
  `Memory.becomes_alloc`: What writing and new cells make of a memory.
* `Memory.Becomes.fits`: A region that fits goes on fitting.
* `Sound.backed`: Sound buffers are backed.
* `Step.trans`: One operation after the other.
* `checkWindow_yields`, `checkReadable_yields`: What is known after a check.
* `Backed.becomes`, `Backed.moved`, `Backed.refl`: Work elsewhere, and moving cursors.
* `Backed.setReader`, `Backed.setWriter`, `Backed.setCursors`, `Backed.clear`,
  `Backed.markReader`, `Backed.markWriter`, `Backed.advanceReader`: The cursors.
* `Backed.length_peek`, `Backed.length_content`: As much is read as is asked for.
* `Backed.store`, `Backed.reallocate`, `Backed.ensureWritable`: What all others are made of.
* `Backed.ensureWritableBytes`, `Backed.discardReadBytes`: Room, and moving to the front.
* `Backed.advanceWriter`, `Backed.retreat`: A cursor follows what was written.
* `Backed.write`, `Backed.writeZero`, `Backed.writeAhead`, `Backed.writeZeroAhead`,
  `Backed.drainInto`: Writing at the cursors, with nothing changed if nothing is written.
* `Backed.getBytes`, `Backed.hexDumpOf`, `Backed.setBytes`, `Backed.setZero`,
  `Backed.skip`, `Backed.readInto`: Bytes.
* `Backed.getWord`, `Backed.tryReadWord`, `Backed.readWord`, `Backed.setWord`,
  `Backed.writeWordAhead`: Words.
* `Backed.mem_clip_fits`, `Backed.ofRegions`, `Backed.slice`, `Backed.readableSlice`,
  `Backed.readSlice`, `Backed.components`, `Backed.decompose`: Views.
* `Backed.ofBytes`, `Backed.copy`, `Backed.readBytes`: Copies.
* `Made.view`, `Made.empty`, `Made.growable`, `Made.fixed`, `Made.wrap`, `Made.copied`,
  `Made.allocAll`, `Made.wrapParts`, `Made.copyParts`, `Made.wrapAll`, `Made.copyAll`,
  `Made.bufferOf`: New buffers.
-/

namespace Conduit

open Region

namespace Memory

/-- A memory that another one has become by overwriting bytes of certain regions, and by
    taking new cells. -/
structure Becomes (own : List Region) (m m' : Memory) : Prop where
  grows : m.cells.size ≤ m'.cells.size
  sizes : ∀ id < m.cells.size, (m'.cell id).size = (m.cell id).size
  frame : ∀ a : Location, a.1 < m.cells.size → a ∉ addresses own → m'.byte? a = m.byte? a

variable {own own' : List Region} {m m' m'' : Memory}

@[refl] theorem Becomes.refl (own : List Region) (m : Memory) : m.Becomes own m :=
  ⟨Nat.le_refl _, fun _ _ => rfl, fun _ _ _ => rfl⟩

/-- What stays as it is outside some regions does so outside more of them. -/
theorem Becomes.widen (h : m.Becomes [] m') (own : List Region) : m.Becomes own m' :=
  ⟨h.grows, h.sizes, fun a hcell _ => h.frame a hcell List.not_mem_nil⟩

theorem Becomes.trans (h : m.Becomes own m') (h' : m'.Becomes own' m'')
    (hown : ∀ a ∈ addresses own', a.1 < m.cells.size → a ∈ addresses own) :
    m.Becomes own m'' where
  grows := Nat.le_trans h.grows h'.grows
  sizes := fun id hid => (h'.sizes id (Nat.lt_of_lt_of_le hid h.grows)).trans (h.sizes id hid)
  -- What the second step may change, the first one may if it was there, and if it was not
  -- there then nothing is asked.
  frame := fun a hcell ha =>
    (h'.frame a (Nat.lt_of_lt_of_le hcell h.grows) fun hmem => ha (hown a hmem hcell)).trans
      (h.frame a hcell ha)

theorem size_cells_storeAll (m : Memory) (ps : List Region) (src : Bytes) :
    (m.storeAll ps src).cells.size = m.cells.size := by
  induction ps generalizing m src with
  | nil => rfl
  | cons p ps ih => rw [storeAll, ih, storeRegion, Array.size_modify]

/-- Writing through regions changes bytes of those regions. -/
theorem becomes_store (m : Memory) (rs : List Region) (index : Nat) (src : Bytes) :
    m.Becomes rs (m.store rs index src) where
  grows := Nat.le_of_eq (size_cells_storeAll m _ src).symm
  sizes := fun id _ => size_cell_storeAll m _ src id
  frame := by
    intro a _ ha
    rw [byte?_store]
    refine poke_of_not_mem fun x hx hxa => ha ?_
    -- What is written is written to addresses of the stretch.
    have hstretch := List.of_mem_zip hx
    exact hxa ▸ List.mem_of_mem_drop (List.mem_of_mem_take hstretch.1)

@[simp] theorem store_nil (m : Memory) (rs : List Region) (index : Nat) :
    m.store rs index [] = m := by
  rw [store, List.length_nil, clip_zero, storeAll]

/-- A new cell changes nothing that was there. -/
theorem becomes_alloc (own : List Region) (m : Memory) (bytes : Array UInt8) :
    m.Becomes own (m.alloc bytes).2 where
  grows := by
    rw [alloc, Array.size_push]
    exact Nat.le_succ _
  sizes := fun id hid => by rw [cell_alloc, if_neg (Nat.ne_of_lt hid)]
  frame := fun a hcell _ => by rw [byte?_alloc, if_neg (Nat.ne_of_lt hcell)]

/-- A region that fits goes on fitting. -/
theorem Becomes.fits (h : m.Becomes own m') {r : Region} (hr : r.Fits m) : r.Fits m' := by
  rw [Region.Fits] at hr ⊢
  by_cases hcell : r.cell < m.cells.size
  · rw [h.sizes _ hcell]
    exact hr
  · -- A region of a cell that is not there has no room for a byte.
    have hnone : (m.cell r.cell).size = 0 := by
      rw [cell, Array.getD_eq_getD_getElem?, Array.getElem?_eq_none (Nat.le_of_not_lt hcell)]
      rfl
    omega

end Memory

namespace Buffer

/-- A buffer in order, over regions that are there. -/
structure Backed (b : Buffer) (m : Memory) : Prop where
  valid : b.Valid
  fits : ∀ r ∈ b.regions, r.Fits m

theorem Sound.backed {b : Buffer} {m : Memory} (h : b.Sound m) : b.Backed m := ⟨h.valid, h.fits⟩

/-- What an operation does to a buffer and to memory. -/
structure Step (b : Buffer) (m : Memory) (b' : Buffer) (m' : Memory) : Prop where
  backed : b'.Backed m'
  becomes : m.Becomes b.regions m'
  /-- The buffer looks where it looked before, or at new cells. -/
  own : ∀ a ∈ addresses b'.regions, a.1 < m.cells.size → a ∈ addresses b.regions

/-- A buffer that has been made is backed, and nothing has been written to make it. -/
def Made (m : Memory) (result : Buffer × Memory) : Prop :=
  result.1.Backed result.2 ∧ m.Becomes [] result.2

variable {b b' b'' : Buffer} {m m' m'' : Memory}

theorem Step.trans (h : b.Step m b' m') (h' : b'.Step m' b'' m'') : b.Step m b'' m'' where
  backed := h'.backed
  becomes := h.becomes.trans h'.becomes h.own
  own := fun a ha hcell =>
    h.own a (h'.own a ha (Nat.lt_of_lt_of_le hcell h.becomes.grows)) hcell

/-! ### What checks give -/

theorem checkWindow_yields (b : Buffer) (index length : Nat) :
    Yields (fun _ => index + length ≤ b.capacity) (b.checkWindow index length) := by
  rw [checkWindow]
  by_cases hin : index + length ≤ b.capacity
  · rw [if_pos hin]
    exact Yields.ok hin
  · rw [if_neg hin]
    exact Yields.error

theorem checkReadable_yields (b : Buffer) (length : Nat) :
    Yields (fun _ => length ≤ b.readableBytes) (b.checkReadable length) := by
  rw [checkReadable]
  by_cases hreadable : length ≤ b.readableBytes
  · rw [if_pos hreadable]
    exact Yields.ok hreadable
  · rw [if_neg hreadable]
    exact Yields.error

namespace Backed

/-- A buffer stays backed by what its memory becomes. -/
theorem becomes {own : List Region} (h : b.Backed m) (hm : m.Becomes own m') : b.Backed m' :=
  ⟨h.valid, fun r hr => hm.fits (h.fits r hr)⟩

/-- Moving cursors does nothing to memory. -/
theorem moved (h : b.Backed m) (hvalid : b'.Valid) (hregions : b'.regions = b.regions) :
    b.Step m b' m where
  backed := ⟨hvalid, hregions ▸ h.fits⟩
  becomes := Memory.Becomes.refl _ _
  own := fun _ ha _ => hregions ▸ ha

theorem refl (h : b.Backed m) : b.Step m b m := h.moved h.valid rfl

/-! ### Moving the cursors -/

theorem setReader (h : b.Backed m) (index : Nat) :
    Yields (fun c : Buffer => b.Step m c m) (b.setReader index) := by
  rw [Buffer.setReader]
  by_cases hpast : b.writer < index
  · rw [if_pos hpast]
    exact Yields.error
  · rw [if_neg hpast]
    exact Yields.ok (h.moved
      ⟨Nat.le_of_not_lt hpast, h.valid.writer_le_capacity, h.valid.capacity_le_max⟩ rfl)

theorem setWriter (h : b.Backed m) (index : Nat) :
    Yields (fun c : Buffer => b.Step m c m) (b.setWriter index) := by
  rw [Buffer.setWriter]
  by_cases hout : index < b.reader ∨ b.capacity < index
  · rw [if_pos hout]
    exact Yields.error
  · rw [if_neg hout]
    exact Yields.ok (h.moved ⟨(by omega : b.reader ≤ index), (by omega : index ≤ b.capacity),
      h.valid.capacity_le_max⟩ rfl)

theorem setCursors (h : b.Backed m) (reader writer : Nat) :
    Yields (fun c : Buffer => b.Step m c m) (b.setCursors reader writer) := by
  rw [Buffer.setCursors]
  by_cases hout : writer < reader ∨ b.capacity < writer
  · rw [if_pos hout]
    exact Yields.error
  · rw [if_neg hout]
    exact Yields.ok (h.moved ⟨(by omega : reader ≤ writer), (by omega : writer ≤ b.capacity),
      h.valid.capacity_le_max⟩ rfl)

theorem clear (h : b.Backed m) : b.Step m b.clear m :=
  h.moved ⟨Nat.le_refl _, Nat.zero_le _, h.valid.capacity_le_max⟩ rfl

theorem markReader (h : b.Backed m) : b.Step m b.markReader m :=
  h.moved ⟨h.valid.reader_le_writer, h.valid.writer_le_capacity, h.valid.capacity_le_max⟩ rfl

theorem markWriter (h : b.Backed m) : b.Step m b.markWriter m :=
  h.moved ⟨h.valid.reader_le_writer, h.valid.writer_le_capacity, h.valid.capacity_le_max⟩ rfl

/-- The reader moves over what it has passed. -/
theorem advanceReader (h : b.Backed m) {n : Nat} (hreadable : n ≤ b.readableBytes) :
    b.Step m { b with reader := b.reader + n } m := by
  have hreader := h.valid.reader_le_writer
  rw [readableBytes] at hreadable
  exact h.moved ⟨(by omega : b.reader + n ≤ b.writer), h.valid.writer_le_capacity,
    h.valid.capacity_le_max⟩ rfl

/-- Writing through the regions of a buffer. -/
theorem store (h : b.Backed m) (index : Nat) (src : Bytes) :
    b.Step m b (m.store b.regions index src) where
  backed := h.becomes (Memory.becomes_store m b.regions index src)
  becomes := Memory.becomes_store m b.regions index src
  own := fun _ ha _ => ha

theorem length_peek (h : b.Backed m) {index length : Nat} (hwindow : index + length ≤ b.capacity) :
    (b.peek m index length).length = length := by
  rw [peek, Memory.load_eq h.fits, List.length_take, List.length_drop,
    Memory.length_loadAll h.fits]
  rw [capacity] at hwindow
  omega

theorem length_content (h : b.Backed m) : (b.content m).length = b.readableBytes :=
  h.length_peek (h.valid.reader_add_le (Nat.le_refl _))

/-! ### Growing -/

/-- A larger cell of its own takes the place of the regions of a buffer. -/
theorem reallocate (h : b.Backed m) {capacity : Nat} (hmax : capacity ≤ b.maxCapacity) :
    ∃ rs m', b.reallocate m capacity = ({ b with regions := rs }, m') ∧
      b.Step m { b with regions := rs } m' ∧ Region.span rs = max b.capacity capacity := by
  rw [Buffer.reallocate]
  by_cases hmore : capacity ≤ b.capacity
  · rw [if_pos hmore]
    exact ⟨_, _, rfl, h.refl, (Nat.max_eq_left hmore).symm⟩
  · rw [if_neg hmore]
    -- The new cell is as large as was asked for, since all that there was has been copied.
    have hlen : (b.peek m 0 b.capacity).length = b.capacity :=
      h.length_peek (Nat.le_of_eq (Nat.zero_add _))
    obtain ⟨bytes, hbytes⟩ : ∃ bytes, bytes = (b.peek m 0 b.capacity).toArray ++
        Array.replicate (capacity - b.capacity) (0 : UInt8) := ⟨_, rfl⟩
    have hsize : bytes.size = capacity := by
      rw [hbytes, Array.size_append, List.size_toArray, Array.size_replicate, hlen]
      omega
    have hspan : Region.span [(m.alloc bytes).1] = capacity := hsize
    have hwriter := h.valid.writer_le_capacity
    rw [← hbytes]
    refine ⟨[(m.alloc bytes).1], (m.alloc bytes).2, rfl,
      ⟨⟨⟨h.valid.reader_le_writer, ?_, ?_⟩, ?_⟩, Memory.becomes_alloc _ _ _, ?_⟩, by omega⟩
    · exact (by omega : b.writer ≤ Region.span [(m.alloc bytes).1])
    · exact (by omega : Region.span [(m.alloc bytes).1] ≤ b.maxCapacity)
    · intro r hr
      rw [List.mem_singleton.mp hr]
      exact (Memory.loadRegion_alloc_self m bytes).1
    · -- There is no address of the new cell among those that were there.
      intro a ha hcell
      rw [addresses_cons, addresses_nil, List.append_nil, mem_places] at ha
      exact absurd ha.1 (Nat.ne_of_lt hcell)

/-- A buffer that is asked for room has it afterwards, or is as it was, or has been forced
    to its ceiling. -/
theorem ensureWritable (h : b.Backed m) (wanted : Nat) (force : Bool) :
    ∃ v rs m', b.ensureWritable m wanted force = (v, { b with regions := rs }, m') ∧
      b.Step m { b with regions := rs } m' ∧
      match v with
      | .sufficient | .grew => b.writer + wanted ≤ Region.span rs
      | .grewToMax => force = true ∧ b.writer < Region.span rs
      | .exhausted => rs = b.regions ∧ m' = m ∧
        (force = true → b.capacity = b.maxCapacity ∧ b.writableBytes < wanted) := by
  have hcapacity := h.valid.capacity_le_max
  have hwriter := h.valid.writer_le_capacity
  rw [Buffer.ensureWritable]
  by_cases hfits : wanted ≤ b.writableBytes
  · rw [if_pos hfits]
    rw [writableBytes] at hfits
    exact ⟨_, _, _, rfl, h.refl, (by omega : b.writer + wanted ≤ b.capacity)⟩
  · rw [if_neg hfits]
    by_cases hroom : b.maxWritableBytes < wanted
    · rw [if_pos hroom]
      -- The ceiling is too low. Without force that is all; with it the buffer goes up to it.
      by_cases hforce : (!force || b.capacity == b.maxCapacity) = true
      · rw [if_pos hforce]
        refine ⟨_, _, _, rfl, h.refl, rfl, rfl, fun hf => ⟨?_, Nat.lt_of_not_le hfits⟩⟩
        simpa [hf] using hforce
      · rcases h.reallocate (Nat.le_refl b.maxCapacity) with ⟨rs, m', hrealloc, hstep, hspan⟩
        have hless : force = true ∧ b.capacity ≠ b.maxCapacity := by simpa using hforce
        rw [if_neg hforce, hrealloc]
        exact ⟨_, _, _, rfl, hstep, hless.1, by omega⟩
    · rw [maxWritableBytes] at hroom
      have hgrown : b.writer + wanted ≤ b.grownCapacity (b.writer + wanted) :=
        Capacity.le_grown (by omega)
      rcases h.reallocate (Capacity.grown_le (b.writer + wanted) b.maxCapacity) with
        ⟨rs, m', hrealloc, hstep, hspan⟩
      rw [if_neg (by rwa [maxWritableBytes]), grownCapacity, hrealloc]
      rw [grownCapacity] at hgrown
      exact ⟨_, _, _, rfl, hstep, (by omega : b.writer + wanted ≤ Region.span rs)⟩

theorem ensureWritableBytes (h : b.Backed m) (wanted : Nat) :
    Yields (fun result : Buffer × Memory => b.Step m result.1 result.2)
      (b.ensureWritableBytes m wanted) := by
  rw [Buffer.ensureWritableBytes]
  by_cases hfits : wanted ≤ b.writableBytes
  · rw [if_pos hfits]
    exact Yields.ok h.refl
  · rw [if_neg hfits]
    by_cases hroom : b.maxWritableBytes < wanted
    · rw [if_pos hroom]
      exact Yields.error
    · rcases h.reallocate (Capacity.grown_le (b.writer + wanted) b.maxCapacity) with
        ⟨rs, m', hrealloc, hstep, -⟩
      rw [if_neg hroom, grownCapacity, hrealloc]
      exact Yields.ok hstep

theorem discardReadBytes (h : b.Backed m) :
    b.Step m (b.discardReadBytes m).1 (b.discardReadBytes m).2 := by
  have hwriter := h.valid.writer_le_capacity
  rw [Buffer.discardReadBytes]
  by_cases hzero : b.reader = 0
  · rw [if_pos hzero]
    exact h.refl
  · rw [if_neg hzero]
    -- The bytes are written first, and then the cursors move along with them.
    have hstored := h.store 0 (b.content m)
    exact hstored.trans (hstored.backed.moved
      ⟨Nat.zero_le _, Nat.le_trans (Nat.sub_le _ _) hwriter, h.valid.capacity_le_max⟩ rfl)

/-! ### Writing at the cursors -/

/-- Moving the writer over bytes that have just been written. -/
theorem advanceWriter (h : b.Backed m) {n : Nat} (hroom : b.writer + n ≤ b.capacity)
    (src : Bytes) :
    b.Step m { b with writer := b.writer + n } (m.store b.regions b.writer src) :=
  (h.store b.writer src).trans ((h.store b.writer src).backed.moved
    ⟨Nat.le_trans h.valid.reader_le_writer (Nat.le_add_right _ _), hroom, h.valid.capacity_le_max⟩
    rfl)

/-- What is appended is appended as a whole, or nothing has changed. -/
theorem write (h : b.Backed m) (src : Bytes) :
    b.Step m (b.write m src).2.1 (b.write m src).2.2 ∧ (b.write m src).1 ≤ src.length ∧
      ((b.write m src).1 = 0 → (b.write m src).2 = (b, m)) := by
  by_cases hnil : src = []
  · subst hnil
    exact ⟨h.refl, Nat.le_refl _, fun _ => rfl⟩
  · have hlen : src.length ≠ 0 := fun hlen => hnil (List.eq_nil_of_length_eq_zero hlen)
    rcases h.ensureWritable src.length false with ⟨v, rs, m', hensure, hstep, hv⟩
    rw [Buffer.write, if_neg (by simpa using hnil), hensure]
    cases v with
    | sufficient | grew =>
        exact ⟨hstep.trans (hstep.backed.advanceWriter hv src), Nat.le_refl _,
          fun hnone => absurd hnone hlen⟩
    | grewToMax =>
        -- It does not grow as far as it may unless it is forced to.
        rcases hv with ⟨hgrew, -⟩
        cases hgrew
    | exhausted =>
        rcases hv with ⟨rfl, rfl, -⟩
        exact ⟨h.refl, Nat.zero_le _, fun _ => rfl⟩

/-- As many zeros as there is room for are appended, and nothing has changed if that is
    none. -/
theorem writeZero (h : b.Backed m) (length : Nat) :
    b.Step m (b.writeZero m length).2.1 (b.writeZero m length).2.2 ∧
      ((b.writeZero m length).1 = 0 → (b.writeZero m length).2 = (b, m)) := by
  rcases h.ensureWritable length true with ⟨v, rs, m', hensure, hstep, hv⟩
  have hwriter : b.writer ≤ Region.span rs := hstep.backed.valid.writer_le_capacity
  have hroom : b.writer + min length (Region.span rs - b.writer) ≤ Region.span rs := by omega
  rw [Buffer.writeZero, hensure]
  refine ⟨hstep.trans (hstep.backed.advanceWriter hroom _), fun hnone => ?_⟩
  have hnone : min length (Region.span rs - b.writer) = 0 := hnone
  -- If none is written although some were asked for, then no room was found.
  have hunchanged : rs = b.regions ∧ m' = m := by
    by_cases hlen : length = 0
    · -- Room for nothing is there already.
      rw [hlen, Buffer.ensureWritable, if_pos (Nat.zero_le _)] at hensure
      have hpair := (congrArg Prod.snd hensure).symm
      exact ⟨congrArg (fun x => x.1.regions) hpair, congrArg Prod.snd hpair⟩
    · cases v with
      | sufficient => exact absurd hv (by omega)
      | grew => exact absurd hv (by omega)
      | grewToMax => exact absurd hv.2 (by omega)
      | exhausted => exact ⟨hv.1, hv.2.1⟩
  rcases hunchanged with ⟨rfl, rfl⟩
  change ({ b with writer := b.writer + min length (Region.span b.regions - b.writer) },
    m'.store b.regions b.writer
      (List.replicate (min length (Region.span b.regions - b.writer)) 0)) = (b, m')
  rw [hnone, List.replicate_zero, Memory.store_nil]
  rfl

/-- The reader moves back over bytes that are written before it. -/
theorem retreat (h : b.Backed m) (n : Nat) (src : Bytes) :
    b.Step m { b with reader := b.reader - n } (m.store b.regions (b.reader - n) src) :=
  (h.store (b.reader - n) src).trans ((h.store (b.reader - n) src).backed.moved
    ⟨Nat.le_trans (Nat.sub_le _ _) h.valid.reader_le_writer, h.valid.writer_le_capacity,
      h.valid.capacity_le_max⟩ rfl)

theorem writeAhead (h : b.Backed m) (src : Bytes) :
    Yields (fun result : Buffer × Memory => b.Step m result.1 result.2 ∧ src.length ≤ b.reader)
      (b.writeAhead m src) := by
  rw [Buffer.writeAhead]
  by_cases hroom : b.reader < src.length
  · rw [if_pos hroom]
    exact Yields.error
  · rw [if_neg hroom]
    exact Yields.ok ⟨h.retreat src.length src, Nat.le_of_not_lt hroom⟩

theorem writeZeroAhead (h : b.Backed m) (length : Nat) :
    b.Step m (b.writeZeroAhead m length).2.1 (b.writeZeroAhead m length).2.2 ∧
      ((b.writeZeroAhead m length).1 = 0 → (b.writeZeroAhead m length).2 = (b, m)) := by
  refine ⟨h.retreat _ _, fun hnone => ?_⟩
  have hnone : min length b.reader = 0 := hnone
  change ({ b with reader := b.reader - min length b.reader },
    m.store b.regions (b.reader - min length b.reader)
      (List.replicate (min length b.reader) 0)) = (b, m)
  rw [hnone, List.replicate_zero, Memory.store_nil]
  rfl

/-- Bytes are moved from one buffer into another as a whole, or nothing has changed. -/
theorem drainInto {src : Buffer} (hsrc : src.Backed m) (h : b.Backed m) :
    b.Step m (src.drainInto b m).2.2.1 (src.drainInto b m).2.2.2 ∧
      (src.drainInto b m).2.1.Backed (src.drainInto b m).2.2.2 ∧
      ((src.drainInto b m).1 = 0 → (src.drainInto b m).2 = (src, b, m)) := by
  rcases h.write (src.content m) with ⟨hstep, hcount, hnone⟩
  rw [hsrc.length_content] at hcount
  refine ⟨hstep, (hsrc.advanceReader hcount).backed.becomes hstep.becomes, fun he => ?_⟩
  have he : (b.write m (src.content m)).1 = 0 := he
  change ({ src with reader := src.reader + (b.write m (src.content m)).1 },
    (b.write m (src.content m)).2) = (src, b, m)
  rw [hnone he, he]
  rfl

/-! ### Bytes and words at an index or at the reader -/

theorem getBytes (b : Buffer) (m : Memory) (index length : Nat) :
    Yields (fun _ => index + length ≤ b.capacity) (b.getBytes m index length) :=
  (b.checkWindow_yields index length).bind fun _ hin => Yields.ok hin

theorem hexDumpOf (b : Buffer) (m : Memory) (index length : Nat) :
    Yields (fun _ => index + length ≤ b.capacity) (b.hexDumpOf m index length) :=
  (getBytes b m index length).bind fun _ hin => Yields.ok hin

theorem setBytes (h : b.Backed m) (index : Nat) (src : Bytes) :
    Yields (fun m' => b.Step m b m' ∧ index + src.length ≤ b.capacity)
      (b.setBytes m index src) :=
  (b.checkWindow_yields index src.length).bind fun _ hin => Yields.ok ⟨h.store index src, hin⟩

theorem setZero (h : b.Backed m) (index length : Nat) :
    b.Step m b (b.setZero m index length).2 ∧
      ((b.setZero m index length).1 = 0 → (b.setZero m index length).2 = m) := by
  refine ⟨h.store index _, fun hnone => ?_⟩
  have hnone : min length (b.capacity - index) = 0 := hnone
  change m.store b.regions index (List.replicate (min length (b.capacity - index)) 0) = m
  rw [hnone, List.replicate_zero, Memory.store_nil]

theorem skip (h : b.Backed m) (length : Nat) :
    Yields (fun c : Buffer => b.Step m c m ∧ length ≤ b.readableBytes) (b.skip length) :=
  (b.checkReadable_yields length).bind fun _ hreadable =>
    Yields.ok ⟨h.advanceReader hreadable, hreadable⟩

theorem readInto (h : b.Backed m) (length : Nat) :
    Yields (fun result : Bytes × Buffer => b.Step m result.2 m ∧ length ≤ b.readableBytes)
      (b.readInto m length) :=
  (b.checkReadable_yields length).bind fun _ hreadable =>
    Yields.ok ⟨h.advanceReader hreadable, hreadable⟩

theorem getWord (b : Buffer) (m : Memory) (w index : Nat) :
    Yields (fun _ => index + w ≤ b.capacity) (b.getWord m w index) :=
  (getBytes b m index w).bind fun _ hin => Yields.ok hin

theorem tryReadWord (h : b.Backed m) (w : Nat) :
    Yields (fun result : Word w × Buffer => b.Step m result.2 m ∧ w ≤ b.readableBytes)
      (b.tryReadWord m w) :=
  (b.checkReadable_yields w).bind fun _ hreadable =>
    (getWord b m w b.reader).bind fun _ _ => Yields.ok ⟨h.advanceReader hreadable, hreadable⟩

theorem readWord (h : b.Backed m) (w : Nat) : b.Step m (b.readWord m w).2 m := by
  rw [Buffer.readWord]
  cases hread : b.tryReadWord m w with
  | error cause => exact h.refl
  | ok result => exact (h.tryReadWord w result hread).1

theorem setWord (h : b.Backed m) (index : Nat) {w : Nat} (v : Word w) :
    Yields (fun m' => b.Step m b m' ∧ index + w ≤ b.capacity) (b.setWord m index v) := by
  have hset := h.setBytes index (Word.encode b.order v)
  rw [Word.length_encode] at hset
  exact hset

theorem writeWordAhead (h : b.Backed m) {w : Nat} (v : Word w) :
    Yields (fun result : Buffer × Memory => b.Step m result.1 result.2 ∧ w ≤ b.reader)
      (b.writeWordAhead m v) := by
  have hahead := h.writeAhead (Word.encode b.order v)
  rw [Word.length_encode] at hahead
  exact hahead

/-! ### Views and copies -/

theorem mem_clip_fits {rs : List Region} (h : ∀ r ∈ rs, r.Fits m) {index length : Nat}
    {r : Region} (hr : r ∈ clip rs index length) : r.Fits m := by
  rcases within_of_mem_clip hr with ⟨s, hs, hcell, hlow, hhigh⟩
  have hfits := h s hs
  rw [Region.Fits] at hfits ⊢
  rw [hcell]
  exact Nat.le_trans hhigh hfits

/-- A view of regions that are there. -/
theorem ofRegions (order : ByteOrder) {rs : List Region} (h : ∀ r ∈ rs, r.Fits m) :
    (Buffer.ofRegions order rs).Backed m :=
  ⟨⟨Nat.zero_le _, Nat.le_refl _, Nat.le_refl _⟩, fun r hr => h r (List.mem_filter.mp hr).1⟩

/-- A buffer over a new cell. -/
theorem ofBytes (m : Memory) (order : ByteOrder) (bytes : Array UInt8) {writer maxCapacity : Nat}
    (hwriter : writer ≤ bytes.size) (hmax : bytes.size ≤ maxCapacity) :
    Made m (Buffer.ofBytes m order bytes writer maxCapacity) := by
  have hsound := (Sound.ofBytes m order bytes hwriter hmax).1
  exact ⟨hsound.backed, Memory.becomes_alloc [] m bytes⟩

theorem slice (h : b.Backed m) (index length : Nat) :
    Yields (fun view : Buffer => view.Backed m ∧ index + length ≤ b.capacity)
      (b.slice index length) :=
  (b.checkWindow_yields index length).bind fun _ hin =>
    Yields.ok ⟨ofRegions _ fun _ hr => mem_clip_fits h.fits hr, hin⟩

theorem readableSlice (h : b.Backed m) : b.readableSlice.Backed m :=
  ofRegions _ fun _ hr => mem_clip_fits h.fits hr

theorem copy (h : b.Backed m) (index length : Nat) :
    Yields (fun result => Made m result ∧ index + length ≤ b.capacity)
      (b.copy m index length) := by
  refine (b.checkWindow_yields index length).bind fun _ hin => Yields.ok ⟨?_, hin⟩
  have hsize : (b.peek m index length).toArray.size = length := h.length_peek hin
  exact ofBytes m b.order (b.peek m index length).toArray (Nat.le_of_eq hsize.symm) (by omega)

/-- A copy of the next bytes, and the buffer with its reader moved. -/
theorem readBytes (h : b.Backed m) (length : Nat) :
    Yields (fun result : Buffer × Buffer × Memory => result.1.Backed result.2.2 ∧
        b.Step m result.2.1 result.2.2 ∧ length ≤ b.readableBytes)
      (b.readBytes m length) := by
  refine (b.checkReadable_yields length).bind fun _ hreadable => ?_
  refine (h.copy b.reader length).bind fun result hcopied => Yields.ok ?_
  -- A copy takes a cell of its own, so the buffer it is taken from is backed as before.
  rcases hcopied with ⟨⟨hbacked, hbecomes⟩, -⟩
  have hstep := h.advanceReader hreadable
  exact ⟨hbacked, ⟨hstep.backed.becomes hbecomes, hbecomes.widen b.regions, fun _ ha _ => ha⟩,
    hreadable⟩

/-- A view of the next bytes, and the buffer with its reader moved. -/
theorem readSlice (h : b.Backed m) (length : Nat) :
    Yields (fun result : Buffer × Buffer => result.1.Backed m ∧ b.Step m result.2 m ∧
        length ≤ b.readableBytes)
      (b.readSlice length) :=
  (b.checkReadable_yields length).bind fun _ hreadable =>
    (h.slice b.reader length).bind fun _ hview =>
      Yields.ok ⟨hview.1, h.advanceReader hreadable, hreadable⟩

theorem components (h : b.Backed m) {index length : Nat} {c : Buffer}
    (hc : c ∈ (clip b.regions index length).map fun r => Buffer.ofRegions b.order [r]) :
    c.Backed m := by
  rcases List.mem_map.mp hc with ⟨r, hr, rfl⟩
  refine ofRegions _ fun s hs => ?_
  rw [List.mem_singleton.mp hs]
  exact mem_clip_fits h.fits hr

theorem decompose (h : b.Backed m) (index length : Nat) :
    Yields (fun parts : List Buffer => (∀ c ∈ parts, c.Backed m) ∧ index + length ≤ b.capacity)
      (b.decompose index length) :=
  (b.checkWindow_yields index length).bind fun _ hin =>
    Yields.ok ⟨fun _ hc => h.components hc, hin⟩

end Backed

/-! ### New buffers -/

namespace Made

/-- A buffer that is made without touching memory. -/
theorem view (h : b.Backed m) : Made m (b, m) := ⟨h, Memory.Becomes.refl _ _⟩

theorem empty (m : Memory) (order : ByteOrder) : Made m (Buffer.empty.withOrder order, m) :=
  view ⟨⟨Nat.le_refl _, Nat.le_refl _, Nat.le_refl _⟩, fun _ hr => nomatch hr⟩

theorem growable (m : Memory) (order : ByteOrder) (capacity : Nat) :
    Made m (Buffer.growable m order capacity) :=
  Backed.ofBytes m order _ (Nat.zero_le _) (by rw [Array.size_replicate]; omega)

theorem fixed (m : Memory) (order : ByteOrder) (capacity : Nat) :
    Made m (Buffer.fixed m order capacity) :=
  Backed.ofBytes m order _ (Nat.zero_le _) (Nat.le_of_eq Array.size_replicate)

theorem wrap (m : Memory) (order : ByteOrder) (bytes : Bytes) :
    Made m (Buffer.wrap m order bytes) := by
  rw [Buffer.wrap]
  by_cases hnil : bytes.isEmpty = true
  · rw [if_pos hnil]
    exact empty m order
  · rw [if_neg hnil]
    exact Backed.ofBytes m order _ (Nat.le_refl _) (Nat.le_refl _)

theorem copied (m : Memory) (order : ByteOrder) (bytes : Bytes) :
    Made m (Buffer.copied m order bytes) := by
  rw [Buffer.copied]
  by_cases hnil : bytes.isEmpty = true
  · rw [if_pos hnil]
    exact empty m order
  · rw [if_neg hnil]
    exact Backed.ofBytes m order _ (Nat.le_refl _) (Nat.le_max_right _ _)

theorem allocAll (m : Memory) (parts : List Bytes) :
    (∀ r ∈ (Buffer.allocAll m parts).1, r.Fits (Buffer.allocAll m parts).2) ∧
      m.Becomes [] (Buffer.allocAll m parts).2 := by
  induction parts generalizing m with
  | nil => exact ⟨fun _ hr => absurd hr List.not_mem_nil, Memory.Becomes.refl _ _⟩
  | cons part parts ih =>
      rcases ih (m.alloc part.toArray).2 with ⟨hfits, hbecomes⟩
      refine ⟨fun r hr => ?_, (Memory.becomes_alloc [] m _).trans hbecomes fun _ ha _ => ha⟩
      rcases List.mem_cons.mp hr with rfl | hr
      · exact hbecomes.fits (Memory.loadRegion_alloc_self m part.toArray).1
      · exact hfits r hr

theorem wrapParts (m : Memory) (order : ByteOrder) (parts : List Bytes) :
    Made m (Buffer.wrapParts m order parts) := by
  rcases allocAll m (parts.filter (!·.isEmpty)) with ⟨hfits, hbecomes⟩
  exact ⟨Backed.ofRegions order hfits, hbecomes⟩

theorem copyParts (m : Memory) (order : ByteOrder) (parts : List Bytes) :
    Yields (Made m) (Buffer.copyParts m order parts) :=
  Yields.bind (P := fun _ => True) (fun _ _ => trivial) fun _ _ => Yields.ok (copied m order _)

/-- Several buffers laid end to end. -/
theorem wrapAll {sources : List Buffer} (h : ∀ b ∈ sources, b.Backed m) :
    Yields (fun c : Buffer => c.Backed m) (Buffer.wrapAll sources) := by
  refine Yields.bind (P := fun _ => True) (fun _ _ => trivial) fun order _ => Yields.ok ?_
  refine Backed.ofRegions order fun r hr => ?_
  rcases List.mem_flatMap.mp hr with ⟨b, hb, hr⟩
  exact Backed.mem_clip_fits (h b hb).fits hr

theorem copyAll (m : Memory) (sources : List Buffer) :
    Yields (Made m) (Buffer.copyAll m sources) :=
  Yields.bind (P := fun _ => True) (fun _ _ => trivial) fun _ _ =>
    Yields.bind (P := fun _ => True) (fun _ _ => trivial) fun _ _ => Yields.ok (copied m _ _)

/-- A buffer that is filled as soon as it is made. -/
theorem bufferOf (f : BufferFactory) (m : Memory) (bytes : Bytes) :
    Made m (f.bufferOf m bytes) := by
  rcases growable m f.order bytes.length with ⟨hbacked, hbecomes⟩
  -- The buffer is made as large as the bytes, and then they are written to it.
  rcases hbacked.write bytes with ⟨hstep, -⟩
  refine ⟨hstep.backed, hbecomes.trans hstep.becomes ?_⟩
  -- The cell that is written to was not there before.
  intro a ha hcell
  change a ∈ addresses [(m.alloc (Array.replicate bytes.length 0)).1] at ha
  rw [addresses_cons, addresses_nil, List.append_nil, mem_places] at ha
  exact absurd ha.1 (Nat.ne_of_lt hcell)

end Made

end Buffer

end Conduit
