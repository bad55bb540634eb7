import Conduit.Buffer.View
import Conduit.Proofs.Buffer.Image

/-!
# What a Buffer Holds

The readable bytes of a buffer under the operations that a stream of bytes makes of
it: appending, passing over, copying out, and moving to the front. Each of them is
an operation on the byte string that the buffer holds, whatever the regions are
through which it looks at memory, and whether or not it takes new memory on the way.

That is so for a sound buffer. Its cursors are in order, its regions fit their
cells, and no two of them share a byte. All operations keep a buffer sound. Looking
needs less: a region may share bytes with another as long as nothing is written.

Bytes that have been passed over still stand in front of the content until a buffer
is moved to the front. An append is therefore stated of what stands up to the
writer, of which the content is the rest from the reader on.

An append that needs more room than there is takes a new cell. How large that cell
is does not matter here, except that it is large enough, which `le_grown` says. An
append only fails past the ceiling of the buffer, and every bound on how much can be
appended is a bound on `maxWritableBytes`.

## Main definitions

* `Buffer.Sound`: A buffer in good order.
* `Buffer.standing`: The bytes up to the writer.

## Theorems

* `le_doubled`, `le_stepped`, `le_grown`, `grown_le`: What a capacity grows to is enough,
  and not past the ceiling.
* `checkWindow_ok`, `checkWindow_error`, `checkReadable_ok`, `checkReadable_error`: What
  the checks come to.
* `Valid.reader_add_le`: What can be read is within the capacity.
* `skip_eq`: Passing over what can be read.
* `peek_reader`, `content_advance`: The next bytes, and what comes after them.
* `content_alloc`: A new cell does not show.
* `readBytes_eq`: Copying out of a buffer that need not be sound.
* `Sound.length_image`, `Sound.length_content`, `Sound.length_standing`: How much there is.
* `Sound.content_eq`: The content is a stretch of the image.
* `Sound.content_eq_drop`: It is what stands from the reader on.
* `Sound.alloc`, `Sound.advance`: A new cell, and passing over.
* `Sound.reallocate`: A larger cell shows what was shown, and zeros.
* `Sound.ensureWritable`: A buffer finds any room that its ceiling allows.
* `Sound.reallocate_standing`, `Sound.ensureWritable_standing`,
  `Sound.ensureWritableBytes_standing`: What stands, stays, whatever comes of it.
* `Sound.append`: Bytes put behind what stands, where there is room.
* `Sound.write_standing`, `Sound.write_refused`: What an append makes of what stands.
* `Sound.write`: Appending.
* `Sound.discardReadBytes`: Moving to the front.
* `Sound.ofBytes`, `Sound.growable`: New buffers.
-/

namespace Conduit

/-! ### Capacities -/

namespace Capacity

theorem le_doubled (target start : Nat) (h : 0 < start) : target ≤ doubled target start h := by
  -- Doubling only stops where the target has been reached.
  fun_induction doubled target start h with
  | case1 start h hlt ih => exact ih
  | case2 start h hge => exact Nat.le_of_not_lt hge

theorem le_stepped (target : Nat) : target ≤ stepped target := by
  have hdiv := Nat.div_add_mod (target + threshold - 1) threshold
  have hmod : (target + threshold - 1) % threshold < threshold := Nat.mod_lt _ (by decide)
  have hpos : 0 < threshold := by decide
  rw [stepped, Nat.mul_comm]
  omega

/-- What a buffer grows to holds what was asked for, if the ceiling allows that. -/
theorem le_grown {target max : Nat} (h : target ≤ max) : target ≤ grown target max := by
  rw [grown]
  by_cases hlarge : threshold ≤ target
  · rw [if_pos hlarge]
    by_cases hword : stepped target < wordLimit
    · rw [if_pos hword]
      exact Nat.le_min.mpr ⟨le_stepped target, h⟩
    · rw [if_neg hword]
      exact h
  · rw [if_neg hlarge]
    exact Nat.le_min.mpr ⟨le_doubled target floor _, h⟩

theorem grown_le (target max : Nat) : grown target max ≤ max := by
  rw [grown]
  by_cases hlarge : threshold ≤ target
  · rw [if_pos hlarge]
    by_cases hword : stepped target < wordLimit
    · rw [if_pos hword]
      exact Nat.min_le_right _ _
    · exact Nat.le_of_eq (if_neg hword)
  · rw [if_neg hlarge]
    exact Nat.min_le_right _ _

end Capacity

namespace Buffer

/-! ### Checks -/

theorem checkWindow_ok {b : Buffer} {index length : Nat} (h : index + length ≤ b.capacity) :
    b.checkWindow index length = .ok () := if_pos h

theorem checkWindow_error {b : Buffer} {index length : Nat} (h : b.capacity < index + length) :
    b.checkWindow index length = .error (.range (.window index length b.capacity)) :=
  if_neg (Nat.not_le_of_lt h)

theorem checkReadable_ok {b : Buffer} {length : Nat} (h : length ≤ b.readableBytes) :
    b.checkReadable length = .ok () := if_pos h

theorem checkReadable_error {b : Buffer} {length : Nat} (h : b.readableBytes < length) :
    b.checkReadable length = .error (.range (.unreadable length b.readableBytes)) :=
  if_neg (Nat.not_le_of_lt h)

/-- What can be read is within the capacity. -/
theorem Valid.reader_add_le {b : Buffer} (h : b.Valid) {length : Nat}
    (hlen : length ≤ b.readableBytes) : b.reader + length ≤ b.capacity := by
  have hreader := h.reader_le_writer
  have hwriter := h.writer_le_capacity
  rw [readableBytes] at hlen
  omega

theorem skip_eq {b : Buffer} {length : Nat} (h : length ≤ b.readableBytes) :
    b.skip length = .ok { b with reader := b.reader + length } := by
  rw [skip, checkReadable_ok h]
  rfl

/-! ### Reading

What is read needs no region to be apart from another one. -/

section Reading

variable {b : Buffer} {m : Memory}

/-- The next bytes are the first ones of the content. -/
theorem peek_reader (hfits : ∀ r ∈ b.regions, r.Fits m) {length : Nat}
    (hlen : length ≤ b.readableBytes) : b.peek m b.reader length = (b.content m).take length := by
  rw [content, peek, peek, Memory.load_eq hfits, Memory.load_eq hfits, List.take_take,
    Nat.min_eq_left hlen]

/-- Passing over bytes drops them from the content. -/
theorem content_advance (hfits : ∀ r ∈ b.regions, r.Fits m) (length : Nat) :
    ({ b with reader := b.reader + length } : Buffer).content m =
      (b.content m).drop length := by
  rw [content, content, peek, peek, Memory.load_eq hfits, Memory.load_eq hfits, List.drop_take,
    List.drop_drop, readableBytes, readableBytes, Nat.sub_sub]

/-- A new cell does not show. -/
theorem content_alloc (hfits : ∀ r ∈ b.regions, r.Fits m) (bytes : Array UInt8) :
    b.content (m.alloc bytes).2 = b.content m := by
  have hlater : ∀ r ∈ b.regions, r.Fits (m.alloc bytes).2 := fun r hr =>
    (Memory.loadRegion_alloc (hfits r hr) bytes).1
  rw [content, content, peek, peek, Memory.load_eq hfits, Memory.load_eq hlater,
    Memory.loadAll_alloc hfits]

/-- A copy of the next bytes holds them. -/
theorem readBytes_eq (hvalid : b.Valid) (hfits : ∀ r ∈ b.regions, r.Fits m) {length : Nat}
    (hlen : length ≤ b.readableBytes) :
    ∃ line bytes, b.readBytes m length =
        .ok (line, { b with reader := b.reader + length }, (m.alloc bytes).2) ∧
      line.content (m.alloc bytes).2 = (b.content m).take length ∧ line.order = b.order := by
  have hwindow := hvalid.reader_add_le hlen
  have hsize : ((b.content m).take length).length = length := by
    rw [← peek_reader hfits hlen, peek, Memory.load_eq hfits, List.length_take, List.length_drop,
      Memory.length_loadAll hfits]
    rw [capacity] at hwindow
    omega
  obtain ⟨bytes, hbytes⟩ : ∃ bytes, bytes = ((b.content m).take length).toArray := ⟨_, rfl⟩
  have hself := Memory.loadRegion_alloc_self m bytes
  refine ⟨(Buffer.ofBytes m b.order bytes length (max Capacity.defaultMax length)).1, bytes,
    ?_, ?_, rfl⟩
  · -- The call takes a new cell for just these bytes.
    have htaken := peek_reader hfits hlen
    rw [Buffer.readBytes, checkReadable_ok hlen, Buffer.copy, checkWindow_ok hwindow, htaken,
      ← hbytes]
    rfl
  · have hnew : ∀ r ∈ [(m.alloc bytes).1], r.Fits (m.alloc bytes).2 := fun r hr =>
      List.mem_singleton.mp hr ▸ hself.1
    change Memory.load (m.alloc bytes).2 [(m.alloc bytes).1] 0 length = _
    rw [Memory.load_eq hnew, Memory.loadAll_cons, Memory.loadAll_nil, List.append_nil, hself.2,
      hbytes, List.drop_zero, List.take_take, Nat.min_self]

end Reading

/-- What stands before the writer, whether it has been read or not. -/
def standing (b : Buffer) (m : Memory) : Bytes := (m.loadAll b.regions).take b.writer

/-- A buffer in good order: its cursors are, and its regions lie in memory, apart from each
    other. -/
structure Sound (b : Buffer) (m : Memory) : Prop where
  valid : b.Valid
  fits : ∀ r ∈ b.regions, r.Fits m
  apart : b.regions.Pairwise Region.Apart

namespace Sound

variable {b : Buffer} {m : Memory}

theorem length_image (h : b.Sound m) : (m.loadAll b.regions).length = b.capacity :=
  Memory.length_loadAll h.fits

/-- The content is the stretch of the image between the cursors. -/
theorem content_eq (h : b.Sound m) :
    b.content m = ((m.loadAll b.regions).drop b.reader).take b.readableBytes :=
  Memory.load_eq h.fits _ _

theorem length_content (h : b.Sound m) : (b.content m).length = b.readableBytes := by
  have hreader := h.valid.reader_le_writer
  have hwriter := h.valid.writer_le_capacity
  rw [h.content_eq, List.length_take, List.length_drop, h.length_image, readableBytes]
  omega

/-- The content is what stands before the writer, less what stands before the reader. -/
theorem content_eq_drop (h : b.Sound m) : b.content m = (b.standing m).drop b.reader := by
  rw [h.content_eq, standing, List.drop_take, readableBytes]

theorem length_standing (h : b.Sound m) : (b.standing m).length = b.writer := by
  rw [standing, List.length_take, h.length_image]
  exact Nat.min_eq_left h.valid.writer_le_capacity

/-- A new cell is nothing to a buffer. -/
theorem alloc (h : b.Sound m) (bytes : Array UInt8) :
    b.Sound (m.alloc bytes).2 ∧ b.content (m.alloc bytes).2 = b.content m :=
  ⟨⟨h.valid, fun r hr => (Memory.loadRegion_alloc (h.fits r hr) bytes).1, h.apart⟩,
    content_alloc h.fits bytes⟩

/-! ### Passing over -/

theorem advance (h : b.Sound m) {length : Nat} (hlen : length ≤ b.readableBytes) :
    Sound { b with reader := b.reader + length } m ∧
      ({ b with reader := b.reader + length } : Buffer).content m =
        (b.content m).drop length := by
  have hreader := h.valid.reader_le_writer
  have hvalid : Valid { b with reader := b.reader + length } :=
    ⟨by rw [readableBytes] at hlen; exact (by omega : b.reader + length ≤ b.writer),
      h.valid.writer_le_capacity, h.valid.capacity_le_max⟩
  have hsound : Sound { b with reader := b.reader + length } m := ⟨hvalid, h.fits, h.apart⟩
  exact ⟨hsound, content_advance h.fits length⟩

/-! ### Growing -/

/-- A larger cell of its own shows a buffer what it showed before, and then zeros. -/
theorem reallocate (h : b.Sound m) {capacity : Nat} (hmore : b.capacity < capacity)
    (hmax : capacity ≤ b.maxCapacity) :
    ∃ r m', b.reallocate m capacity = ({ b with regions := [r] }, m') ∧
      Sound { b with regions := [r] } m' ∧ r.length = capacity ∧
      m'.loadAll [r] = m.loadAll b.regions ++ List.replicate (capacity - b.capacity) 0 := by
  have himage : b.peek m 0 b.capacity = m.loadAll b.regions := by
    rw [peek, Memory.load_eq h.fits, List.drop_zero,
      List.take_of_length_le (Nat.le_of_eq h.length_image)]
  -- The new cell is made of the image, whatever part of it can be read.
  obtain ⟨bytes, hbytes⟩ : ∃ bytes, bytes =
      (m.loadAll b.regions).toArray ++ Array.replicate (capacity - b.capacity) (0 : UInt8) :=
    ⟨_, rfl⟩
  have hsize : bytes.size = capacity := by
    rw [hbytes, Array.size_append, List.size_toArray, Array.size_replicate, h.length_image]
    omega
  have hself := Memory.loadRegion_alloc_self m bytes
  rw [Buffer.reallocate, if_neg (Nat.not_le.mpr hmore), himage, ← hbytes]
  refine ⟨(m.alloc bytes).1, (m.alloc bytes).2, rfl,
    ⟨⟨h.valid.reader_le_writer, ?_, ?_⟩, ?_, List.pairwise_singleton _ _⟩, hsize, ?_⟩
  · change b.writer ≤ bytes.size + 0
    rw [hsize]
    exact Nat.le_trans h.valid.writer_le_capacity (Nat.le_of_lt hmore)
  · change bytes.size + 0 ≤ b.maxCapacity
    rw [hsize]
    exact hmax
  · intro r hr
    rw [List.mem_singleton.mp hr]
    exact hself.1
  · rw [Memory.loadAll_cons, Memory.loadAll_nil, List.append_nil, hself.2, hbytes,
      Array.toList_append, Array.toList_replicate]

/-- A buffer finds any room that its ceiling allows, and goes on holding what it held. -/
theorem ensureWritable (h : b.Sound m) {wanted : Nat} (hroom : wanted ≤ b.maxWritableBytes)
    (force : Bool) :
    ∃ v rs m', b.ensureWritable m wanted force = (v, { b with regions := rs }, m') ∧
      (v = .sufficient ∨ v = .grew) ∧ Sound { b with regions := rs } m' ∧
      b.writer + wanted ≤ Region.span rs ∧
      (m'.loadAll rs).take b.writer = (m.loadAll b.regions).take b.writer := by
  have hcapacity := h.valid.capacity_le_max
  have hwriter := h.valid.writer_le_capacity
  rw [maxWritableBytes] at hroom
  rw [Buffer.ensureWritable]
  by_cases hfits : wanted ≤ b.writableBytes
  · rw [if_pos hfits]
    rw [writableBytes] at hfits
    exact ⟨_, _, _, rfl, Or.inl rfl, h, by change _ ≤ b.capacity; omega, rfl⟩
  · have hgrown : b.writer + wanted ≤ b.grownCapacity (b.writer + wanted) :=
      Capacity.le_grown (by omega)
    rw [writableBytes] at hfits
    have hmore : b.capacity < b.grownCapacity (b.writer + wanted) := by omega
    -- There is not enough room, and the ceiling allows more: a larger cell is taken.
    rcases h.reallocate hmore (Capacity.grown_le _ _) with ⟨r, m', hrealloc, hsound, hlen, himage⟩
    rw [if_neg (by rw [writableBytes]; exact hfits), if_neg (by rw [maxWritableBytes]; omega),
      hrealloc]
    refine ⟨_, _, _, rfl, Or.inr rfl, hsound, ?_, ?_⟩
    · rw [Region.span_cons, Region.span_nil, hlen]
      exact hgrown
    · -- The zeros come after everything that can be read.
      rw [himage, List.take_append_of_le_length (by rw [h.length_image]; exact hwriter)]

/-- A larger cell, or the same regions: what stands before the writer stays. -/
theorem reallocate_standing (h : b.Sound m) {capacity : Nat} (hmax : capacity ≤ b.maxCapacity) :
    ∃ rs m', b.reallocate m capacity = ({ b with regions := rs }, m') ∧
      Sound { b with regions := rs } m' ∧
      ({ b with regions := rs } : Buffer).standing m' = b.standing m := by
  by_cases hmore : b.capacity < capacity
  · rcases h.reallocate hmore hmax with ⟨r, m', hrealloc, hsound, -, himage⟩
    refine ⟨[r], m', hrealloc, hsound, ?_⟩
    have hwriter : b.writer ≤ (m.loadAll b.regions).length :=
      h.length_image ▸ h.valid.writer_le_capacity
    rw [standing, standing, himage, List.take_append_of_le_length hwriter]
  · exact ⟨b.regions, m, if_pos (Nat.le_of_not_lt hmore), h, rfl⟩

/-- Whatever comes of a request for room, what stands before the writer stays. -/
theorem ensureWritable_standing (h : b.Sound m) (wanted : Nat) (force : Bool) :
    ∃ v rs m', b.ensureWritable m wanted force = (v, { b with regions := rs }, m') ∧
      Sound { b with regions := rs } m' ∧
      ({ b with regions := rs } : Buffer).standing m' = b.standing m := by
  rw [Buffer.ensureWritable]
  by_cases hfits : wanted ≤ b.writableBytes
  · rw [if_pos hfits]
    exact ⟨_, b.regions, m, rfl, h, rfl⟩
  · rw [if_neg hfits]
    -- The ceiling is too low for the request, and then there may be an attempt up to it; or it
    -- is not, and the capacity grows.
    by_cases hpast : b.maxWritableBytes < wanted
    · rw [if_pos hpast]
      by_cases hforced : (!force || b.capacity == b.maxCapacity) = true
      · rw [if_pos hforced]
        exact ⟨_, b.regions, m, rfl, h, rfl⟩
      · rcases h.reallocate_standing (Nat.le_refl _) with ⟨rs, m', hrealloc, hsound, hsame⟩
        rw [if_neg hforced, hrealloc]
        exact ⟨_, rs, m', rfl, hsound, hsame⟩
    · rcases h.reallocate_standing (Capacity.grown_le (b.writer + wanted) b.maxCapacity) with
        ⟨rs, m', hrealloc, hsound, hsame⟩
      rw [if_neg hpast, grownCapacity, hrealloc]
      exact ⟨_, rs, m', rfl, hsound, hsame⟩

theorem ensureWritableBytes_standing (h : b.Sound m) {wanted : Nat} {b' : Buffer} {m' : Memory}
    (hensure : b.ensureWritableBytes m wanted = .ok (b', m')) :
    ∃ rs, b' = { b with regions := rs } ∧ Sound { b with regions := rs } m' ∧
      ({ b with regions := rs } : Buffer).standing m' = b.standing m := by
  rw [Buffer.ensureWritableBytes] at hensure
  by_cases hfits : wanted ≤ b.writableBytes
  · rw [if_pos hfits] at hensure
    injection hensure with hensure
    injection hensure with hbuffer hmemory
    subst hmemory
    exact ⟨b.regions, hbuffer.symm, h, rfl⟩
  · rw [if_neg hfits] at hensure
    by_cases hpast : b.maxWritableBytes < wanted
    · rw [if_pos hpast] at hensure
      exact nomatch hensure
    · -- The bytes up to the writer are copied, those that were read among them.
      rcases h.reallocate_standing (Capacity.grown_le (b.writer + wanted) b.maxCapacity) with
        ⟨rs, m₂, hrealloc, hsound, hsame⟩
      rw [if_neg hpast, grownCapacity, hrealloc] at hensure
      injection hensure with hensure
      injection hensure with hbuffer hmemory
      subst hmemory
      exact ⟨rs, hbuffer.symm, hsound, hsame⟩

/-! ### Appending -/

/-- Bytes for which there is room come to stand after the others. -/
theorem append (h : b.Sound m) {src : Bytes} (hroom : b.writer + src.length ≤ b.capacity) :
    Sound { b with writer := b.writer + src.length } (m.store b.regions b.writer src) ∧
      ({ b with writer := b.writer + src.length } : Buffer).standing
        (m.store b.regions b.writer src) = b.standing m ++ src := by
  -- The regions are apart, so writing through them puts the bytes into the image and no more.
  have himage : (m.store b.regions b.writer src).loadAll b.regions =
      patch (m.loadAll b.regions) b.writer src :=
    Memory.loadAll_store h.fits h.apart hroom
  refine ⟨⟨⟨Nat.le_trans h.valid.reader_le_writer (Nat.le_add_right _ _), hroom,
    h.valid.capacity_le_max⟩, fun r hr => Memory.fits_storeAll (h.fits r hr) _ _, h.apart⟩, ?_⟩
  have hlength : (b.standing m ++ src).length = b.writer + src.length := by
    rw [List.length_append, h.length_standing]
  change List.take (b.writer + src.length) ((m.store b.regions b.writer src).loadAll b.regions) = _
  rw [himage, patch]
  exact List.take_left' hlength

/-- An append that can be done puts the bytes after those that stand there. -/
theorem write_standing (h : b.Sound m) {src : Bytes} (hroom : src.length ≤ b.maxWritableBytes) :
    ∃ rs m', b.write m src =
        (src.length, { b with regions := rs, writer := b.writer + src.length }, m') ∧
      Sound { b with regions := rs, writer := b.writer + src.length } m' ∧
      ({ b with regions := rs, writer := b.writer + src.length } : Buffer).standing m' =
        b.standing m ++ src := by
  by_cases hnil : src = []
  · -- Nothing is appended, and nothing is asked for.
    subst hnil
    exact ⟨b.regions, m, rfl, h, (List.append_nil _).symm⟩
  · rcases h.ensureWritable hroom false with ⟨v, rs, m', hensure, hv, hsound, hspan, hkept⟩
    rcases hsound.append hspan with ⟨hwritten, hstanding⟩
    refine ⟨rs, m'.store rs b.writer src, ?_, hwritten, hstanding.trans ?_⟩
    · rw [Buffer.write, if_neg (by simpa using hnil), hensure]
      -- Whether there was room before or has come, the call goes on to write.
      rcases hv with rfl | rfl <;> rfl
    · rw [standing, standing, hkept]

/-- An append for which there can be no room changes nothing. -/
theorem write_refused {src : Bytes} (h : b.Sound m) (hroom : b.maxWritableBytes < src.length) :
    b.write m src = (0, b, m) := by
  have hcapacity := h.valid.capacity_le_max
  have hfits : ¬ src.length ≤ b.writableBytes := by
    rw [writableBytes]
    rw [maxWritableBytes] at hroom
    omega
  have hnil : ¬ src.isEmpty = true := fun hempty => by
    rw [List.isEmpty_iff.mp hempty] at hroom
    exact Nat.not_lt_zero _ hroom
  rw [Buffer.write, if_neg hnil, Buffer.ensureWritable, if_neg hfits, if_pos hroom]
  rfl

theorem write (h : b.Sound m) {src : Bytes} (hroom : src.length ≤ b.maxWritableBytes) :
    ∃ rs m', b.write m src =
        (src.length, { b with regions := rs, writer := b.writer + src.length }, m') ∧
      Sound { b with regions := rs, writer := b.writer + src.length } m' ∧
      ({ b with regions := rs, writer := b.writer + src.length } : Buffer).content m' =
        b.content m ++ src := by
  rcases h.write_standing hroom with ⟨rs, m', hwrite, hsound, hstanding⟩
  refine ⟨rs, m', hwrite, hsound, ?_⟩
  have hreader : b.reader ≤ (b.standing m).length :=
    h.length_standing ▸ h.valid.reader_le_writer
  -- The content is what stands from the reader on, and the reader stands before what is new.
  rw [hsound.content_eq_drop, hstanding, h.content_eq_drop, List.drop_append_of_le_length hreader]

/-! ### Moving to the front -/

theorem discardReadBytes (h : b.Sound m) :
    ∃ b' m', b.discardReadBytes m = (b', m') ∧ Sound b' m' ∧ b'.content m' = b.content m ∧
      b'.reader = 0 ∧ b'.writer = b.readableBytes ∧ b'.maxCapacity = b.maxCapacity ∧
      b'.order = b.order := by
  have hreader := h.valid.reader_le_writer
  have hwriter := h.valid.writer_le_capacity
  have hlen := h.length_content
  rw [readableBytes] at hlen
  by_cases hzero : b.reader = 0
  · rw [Buffer.discardReadBytes, if_pos hzero]
    exact ⟨b, m, rfl, h, rfl, hzero, by rw [readableBytes, hzero, Nat.sub_zero], rfl, rfl⟩
  · have himage : (m.store b.regions 0 (b.content m)).loadAll b.regions =
        patch (m.loadAll b.regions) 0 (b.content m) :=
      Memory.loadAll_store h.fits h.apart (by
        change _ ≤ b.capacity
        omega)
    rw [Buffer.discardReadBytes, if_neg hzero]
    refine ⟨_, _, rfl, ?_⟩
    have hsound : Sound { b with
        reader := 0
        writer := b.writer - b.reader
        readerMark := b.readerMark - b.reader
        writerMark := b.writerMark - b.reader } (m.store b.regions 0 (b.content m)) :=
      ⟨⟨Nat.zero_le _, Nat.le_trans (Nat.sub_le _ _) hwriter, h.valid.capacity_le_max⟩,
        fun r hr => Memory.fits_storeAll (h.fits r hr) _ _, h.apart⟩
    refine ⟨hsound, ?_, rfl, rfl, rfl, rfl⟩
    -- What was read is what was written, however the two stretches overlap.
    rw [hsound.content_eq_drop]
    change ((((m.store b.regions 0 (b.content m)).loadAll b.regions).take
      (b.writer - b.reader)).drop 0) = _
    rw [himage, patch, List.take_zero, List.nil_append, List.drop_zero, ← hlen, List.take_left']
    rfl

/-! ### Copying out -/

/-- A new buffer holds the bytes up to its writer. -/
theorem ofBytes (m : Memory) (order : ByteOrder) (bytes : Array UInt8) {writer maxCapacity : Nat}
    (hwriter : writer ≤ bytes.size) (hmax : bytes.size ≤ maxCapacity) :
    (Buffer.ofBytes m order bytes writer maxCapacity).1.Sound
        (Buffer.ofBytes m order bytes writer maxCapacity).2 ∧
      (Buffer.ofBytes m order bytes writer maxCapacity).1.content
        (Buffer.ofBytes m order bytes writer maxCapacity).2 = bytes.toList.take writer := by
  have hself := Memory.loadRegion_alloc_self m bytes
  have hsound : (Buffer.ofBytes m order bytes writer maxCapacity).1.Sound
      (Buffer.ofBytes m order bytes writer maxCapacity).2 := by
    refine ⟨⟨Nat.zero_le _, hwriter, hmax⟩, ?_, List.pairwise_singleton _ _⟩
    intro r hr
    rw [List.mem_singleton.mp hr]
    exact hself.1
  refine ⟨hsound, ?_⟩
  rw [hsound.content_eq_drop]
  change (((m.alloc bytes).2.loadAll [(m.alloc bytes).1]).take writer).drop 0 = _
  rw [Memory.loadAll_cons, Memory.loadAll_nil, List.append_nil, hself.2, List.drop_zero]

/-- A new buffer that can grow holds nothing. -/
theorem growable (m : Memory) (order : ByteOrder) (capacity : Nat) :
    (Buffer.growable m order capacity).1.Sound (Buffer.growable m order capacity).2 ∧
      (Buffer.growable m order capacity).1.content (Buffer.growable m order capacity).2 = [] := by
  have hmax : (Array.replicate capacity (0 : UInt8)).size ≤ max Capacity.defaultMax capacity := by
    rw [Array.size_replicate]
    exact Nat.le_max_right _ _
  exact ofBytes m order (Array.replicate capacity 0) (Nat.zero_le _) hmax

end Sound

end Buffer

end Conduit
