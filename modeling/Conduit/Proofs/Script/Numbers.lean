import Conduit.Proofs.Buffer.Number
import Conduit.Proofs.Script.Composite
import Mathlib.Algebra.Group.Int.Defs

/-!
# Numbers There and Back

What a program reads after it has written a number. A number of a given width is taken
modulo the number of values that this width has, and read as the kind asks: as the least
number that is not negative, as the one nearest to zero, or as a pattern. If the number that
was written is of the kind, that is the number itself, and otherwise its low bits; three
bytes are a width like any other, so their low 24 bits are no exception.

The bytes that lie in the buffer in between are the digits of the number to base 256. Both
are said here of the number, by division and remainder, with no word in between.

## Main definitions

* `Numeral.answer`: What is read of a number.
* `Numeral.bytes`: The bytes of a number.
* `Buffer.Plain`: A buffer that is flat or laid over parts in cells of their own.
* `Registers.Numbers`: What is promised of numbers in a buffer.

## Theorems

* `answer_of_holds`, `bytes_big`: A number of the kind is read as itself.
* `toNat_bitsOf`, `showWord_bitsOf`, `emod_ediv_emod`, `encode_bitsOf`, `length_bytes`: The
  bytes of the word are those of the number.
* `allocAll_apart`, `Plain.sound`: No byte of such a buffer is seen through two indices.
* `useWord_get`, `useWord_next`, `shows_of_getWord`, `showsNext_of_getWord`,
  `showWord_zero`, `getWord_of_written`: Where a word is read, a number is.
* `sound_set`, `sound_write`, `sound_ahead`, `sound_numbers`: A number in a sound buffer.
* `run_numbers`: What a program reads after it has written a number.
* `run_numbers_sampleParted`: Three bytes across the place where two parts meet.
-/

namespace Conduit

open Region

namespace Numeral

/-- The number is one of those that can be read as this kind. -/
def Holds (n : Numeral) (value : Int) : Prop :=
  match n.reading with
  | .signed => -2 ^ (8 * n.width) ≤ value * 2 ∧ value * 2 < 2 ^ (8 * n.width)
  | .unsigned | .pattern => 0 ≤ value ∧ value < 2 ^ (8 * n.width)

/-- What is read where a number has been written. -/
def answer (n : Numeral) (value : Int) : BufferReply :=
  match n.reading with
  | .unsigned => .number (value % 2 ^ (8 * n.width))
  | .signed => .number (value.bmod (2 ^ (8 * n.width)))
  | .pattern => .pattern n.width (value % 2 ^ (8 * n.width)).toNat

/-- The number itself, as an answer. -/
def itself (n : Numeral) (value : Int) : BufferReply :=
  match n.reading with
  | .unsigned | .signed => .number value
  | .pattern => .pattern n.width value.toNat

/-- The bytes of a number: its digits to base 256, the last or the first of them in front. -/
def bytes (n : Numeral) (order : ByteOrder) (value : Int) : Bytes :=
  let digits := (List.range n.width).map fun k => UInt8.ofNat (value / 256 ^ k % 256).toNat
  match order with
  | .little => digits
  | .big => digits.reverse

/-- A number of the kind is read as itself. -/
theorem answer_of_holds {n : Numeral} {value : Int} (h : n.Holds value) :
    n.answer value = n.itself value := by
  rcases n with ⟨width, reading⟩
  cases reading with
  | unsigned => exact congrArg BufferReply.number (Int.emod_eq_of_lt h.1 h.2)
  | pattern =>
      exact congrArg (fun v => BufferReply.pattern width v.toNat) (Int.emod_eq_of_lt h.1 h.2)
  | signed =>
      refine congrArg BufferReply.number (Int.bmod_eq_of_le_mul_two ?_ ?_)
      · rw [Int.natCast_pow]
        exact h.1
      · rw [Int.natCast_pow]
        exact h.2

/-- The bytes in one order are those in the other one from back to front. -/
theorem bytes_big (n : Numeral) (value : Int) :
    n.bytes .big value = (n.bytes .little value).reverse := rfl

end Numeral

namespace Registers

open Numeral

/-- The bits of a number are those of the number modulo a power of two. -/
theorem toNat_bitsOf (n : Numeral) (value : Int) :
    ((bitsOf n value).toNat : Int) = value % 2 ^ (8 * n.width) := by
  have hpositive : (2 : Int) ^ (8 * n.width) ≠ 0 := Int.pow_ne_zero (by decide)
  rw [bitsOf, BitVec.toNat_ofInt, Int.natCast_pow, Int.toNat_of_nonneg]
  · rfl
  · exact Int.emod_nonneg value hpositive

/-- What is read of the bits of a number. -/
theorem showWord_bitsOf (n : Numeral) (reading : Reading) (value : Int) :
    showWord { n with reading } (bitsOf n value) = ({ n with reading } : Numeral).answer value := by
  have hlow := toNat_bitsOf n value
  cases reading with
  | unsigned => exact congrArg BufferReply.number hlow
  | signed => exact congrArg BufferReply.number (BitVec.toInt_ofInt value)
  | pattern =>
      refine congrArg (BufferReply.pattern n.width) ?_
      rw [← hlow]
      rfl

/-- A digit of a number is a digit of what is left of it modulo a power of the base. -/
theorem emod_ediv_emod {value base place rest : Int} (hplace : 0 < place) (hbase : base ∣ rest) :
    value % (place * rest) / place % base = value / place % base := by
  rw [Int.emod_def value, Int.mul_assoc, Int.sub_mul_ediv_left _ _ (Int.ne_of_gt hplace),
    ← Int.ediv_ediv_of_nonneg (Int.le_of_lt hplace), ← Int.emod_def, Int.emod_emod_of_dvd _ hbase]

/-- The bytes of the word are those of the number. -/
theorem encode_bitsOf (n : Numeral) (order : ByteOrder) (value : Int) :
    Word.encode order (bitsOf n value) = n.bytes order value := by
  have hdigits : (bitsOf n value).littleBytes = n.bytes .little value := by
    refine List.map_congr_left fun k hk => ?_
    rw [List.mem_range] at hk
    -- The bits are those of the number modulo `256 ^ n.width`, and that is a multiple of the
    -- place of the digit.
    obtain ⟨rest, hrest⟩ := Nat.exists_eq_add_of_lt hk
    have hpower : (2 : Int) ^ (8 * n.width) = 256 ^ k * 256 ^ (rest + 1) := by
      rw [Int.pow_mul, ← Int.pow_add, hrest]
      rfl
    rw [← UInt8.toNat_inj, UInt8.toNat_ofNat']
    change ((bitsOf n value).extractLsb' (8 * k) 8).toNat = _
    rw [BitVec.extractLsb'_toNat, Nat.shiftRight_eq_div_pow]
    refine Int.ofNat_inj.mp ?_
    have hplace : ((2 ^ (8 * k) : Nat) : Int) = 256 ^ k := by
      rw [Int.natCast_pow, Int.pow_mul]
      rfl
    have hbase : (256 : Int) ∣ 256 ^ (rest + 1) := Int.pow_succ .. ▸ Int.dvd_mul_left ..
    rw [Int.natCast_emod, Int.natCast_ediv, toNat_bitsOf, hpower, hplace, Int.natCast_emod,
      Int.toNat_of_nonneg (Int.emod_nonneg _ (by decide))]
    change value % (256 ^ k * 256 ^ (rest + 1)) / 256 ^ k % 256 = value / 256 ^ k % 256 % 256
    rw [emod_ediv_emod (Int.pow_pos (by decide)) hbase, Int.emod_emod]
  cases order with
  | little => exact hdigits
  | big => rw [Word.encode, bytes_big, hdigits]

end Registers

/-! ### Buffers that look at no byte twice -/

namespace Buffer

/-- The buffer is flat, or laid over parts each of which has a cell of its own. -/
def Plain (b : Buffer) : Prop :=
  b.isComposite = false ∨ ∃ m order parts, b.regions = (wrapParts m order parts).1.regions

/-- New cells for several parts are apart from each other. -/
theorem allocAll_apart (m : Memory) (parts : List Bytes) :
    (allocAll m parts).1.Pairwise Apart ∧ ∀ r ∈ (allocAll m parts).1, m.cells.size ≤ r.cell := by
  induction parts generalizing m with
  | nil => exact ⟨List.Pairwise.nil, fun _ hr => absurd hr List.not_mem_nil⟩
  | cons part parts ih =>
      rcases ih (m.alloc part.toArray).2 with ⟨hapart, hnew⟩
      have hsize : (m.alloc part.toArray).2.cells.size = m.cells.size + 1 := Array.size_push _
      rw [hsize] at hnew
      have hcons : (allocAll m (part :: parts)).1 =
          (m.alloc part.toArray).1 :: (allocAll (m.alloc part.toArray).2 parts).1 := rfl
      rw [hcons]
      refine ⟨List.pairwise_cons.mpr ⟨fun r hr => Or.inl ?_, hapart⟩, fun r hr => ?_⟩
      · -- Regions in different cells have no byte in common.
        exact Nat.ne_of_lt (hnew r hr)
      · rcases List.mem_cons.mp hr with rfl | hr
        · exact Nat.le_refl _
        · exact Nat.le_of_succ_le (hnew r hr)

/-- No byte of such a buffer is seen through two indices. -/
theorem Plain.sound {b : Buffer} {m : Memory} (h : b.Plain) (hbacked : b.Backed m) :
    b.Sound m := by
  refine ⟨hbacked.valid, hbacked.fits, ?_⟩
  rcases h with hflat | ⟨m, order, parts, hregions⟩
  · exact pairwise_apart_of_flat hflat
  · rw [hregions]
    exact (allocAll_apart m (parts.filter (!·.isEmpty))).1.filter _

end Buffer

namespace Registers

open Buffer Numeral

variable {b : Buffer} {m : Memory} {n : Numeral} {value : Int}

/-- A number is read at an index of a buffer, whatever kind of its width is asked for. -/
def Shows (b : Buffer) (m : Memory) (n : Numeral) (value : Int) (index : Nat) : Prop :=
  ∀ reading, useWord b m { n with reading } (.get index) =
    .ok (({ n with reading } : Numeral).answer value, b, m)

/-- A number is read next, both ways, and passed over. -/
def ShowsNext (b : Buffer) (m : Memory) (n : Numeral) (value : Int) : Prop :=
  ∀ reading,
    useWord b m { n with reading } .tryRead =
      .ok (({ n with reading } : Numeral).answer value,
        { b with reader := b.reader + n.width }, m) ∧
    useWord b m { n with reading } .read =
      .ok (({ n with reading } : Numeral).answer value,
        { b with reader := b.reader + n.width }, m)

/-- What is promised of the numbers of a kind in a buffer. -/
structure Numbers (b : Buffer) (m : Memory) (n : Numeral) (value : Int) : Prop where
  /-- A number of the kind is read as itself. -/
  exact : n.Holds value → n.answer value = n.itself value
  turned : n.bytes .big value = (n.bytes .little value).reverse
  /-- A number is put at an index if the stretch is there, -/
  set : ∀ index, index + n.width ≤ b.capacity →
    ∃ m', useWord b m n (.set index value) = .ok (.done, b, m') ∧
      b.Written m b m' index (n.bytes b.order value) ∧ Shows b m' n value index
  beyond : ∀ index, b.capacity < index + n.width →
    useWord b m n (.set index value) = .error (.range (.window index n.width b.capacity))
  /-- appended if there is room for it under the ceiling, -/
  write : n.width ≤ b.maxWritableBytes →
    ∃ b' m', useWord b m n (.write value) = .ok (.count n.width, b', m') ∧
      b' = { b with regions := b'.regions, writer := b.writer + n.width } ∧
      b.Written m b' m' b.writer (n.bytes b.order value) ∧ Shows b' m' n value b.writer ∧
      ShowsNext { b' with reader := b.writer } m' n value
  full : b.maxWritableBytes < n.width → useWord b m n (.write value) = .ok (.count 0, b, m)
  /-- and put before the reader if there is room there. Then it is the next to be read, and
      with that the cursors are back where they were. -/
  ahead : n.width ≤ b.reader →
    ∃ m', useWord b m n (.writeAhead value) =
        .ok (.done, { b with reader := b.reader - n.width }, m') ∧
      b.Written m { b with reader := b.reader - n.width } m' (b.reader - n.width)
        (n.bytes b.order value) ∧
      ShowsNext { b with reader := b.reader - n.width } m' n value
  noRoom : b.reader < n.width →
    useWord b m n (.writeAhead value) = .error (.range (.noRoomAhead n.width b.reader))
  /-- Reading is reading at the reader, and moves it by the width. -/
  next : n.width ≤ b.readableBytes → ∃ reply,
    useWord b m n (.get b.reader) = .ok (reply, b, m) ∧
    useWord b m n .tryRead = .ok (reply, { b with reader := b.reader + n.width }, m) ∧
    useWord b m n .read = .ok (reply, { b with reader := b.reader + n.width }, m)
  /-- If less is left than that, either way of reading leaves the cursors where they are. -/
  short : b.readableBytes < n.width →
    useWord b m n .tryRead = .error (.range (.unreadable n.width b.readableBytes)) ∧
    useWord b m n .read = .ok (n.itself 0, b, m)

/-- Where a word is read, a number is read with its bits. -/
theorem useWord_get {index : Nat} {v : Word n.width} (h : b.getWord m n.width index = .ok v) :
    useWord b m n (.get index) = .ok (showWord n v, b, m) := by
  rw [useWord, h]
  rfl

theorem useWord_next {v : Word n.width} (hw : n.width ≤ b.readableBytes)
    (h : b.getWord m n.width b.reader = .ok v) :
    useWord b m n .tryRead = .ok (showWord n v, { b with reader := b.reader + n.width }, m) ∧
      useWord b m n .read = .ok (showWord n v, { b with reader := b.reader + n.width }, m) := by
  have hread := tryReadWord_ok hw h
  rw [useWord, useWord, readWord, hread]
  exact ⟨rfl, rfl⟩

theorem shows_of_getWord {index : Nat}
    (h : b.getWord m n.width index = .ok (bitsOf n value)) : Shows b m n value index := by
  intro reading
  rw [← showWord_bitsOf]
  exact useWord_get h

theorem showsNext_of_getWord (hw : n.width ≤ b.readableBytes)
    (h : b.getWord m n.width b.reader = .ok (bitsOf n value)) : ShowsNext b m n value := by
  intro reading
  rw [← showWord_bitsOf]
  exact useWord_next hw h

/-- Zero is zero in every kind. -/
theorem showWord_zero (n : Numeral) : showWord n 0 = n.itself 0 := by
  rcases n with ⟨width, reading⟩
  cases reading with
  | unsigned => rfl
  | signed => exact congrArg BufferReply.number BitVec.toInt_zero
  | pattern => rfl

/-- The bytes of a number are as many as its kind is wide. -/
theorem length_bytes (n : Numeral) (order : ByteOrder) (value : Int) :
    (n.bytes order value).length = n.width := by
  rw [← encode_bitsOf, Word.length_encode]

/-- Where the bytes of a number are written, the word is read. -/
theorem getWord_of_written {b' : Buffer} {m' : Memory} {index : Nat}
    (h : b.Written m b' m' index (n.bytes b.order value)) (horder : b'.order = b.order)
    (hbacked : b'.Backed m') (hin : index + n.width ≤ b'.capacity) :
    b'.getWord m' n.width index = .ok (bitsOf n value) := by
  rw [← encode_bitsOf, ← horder] at h
  exact h.getWord hbacked hin

theorem sound_set (h : b.Sound m) {index : Nat} (hin : index + n.width ≤ b.capacity) :
    ∃ m', useWord b m n (.set index value) = .ok (.done, b, m') ∧
      b.Written m b m' index (n.bytes b.order value) ∧ Shows b m' n value index := by
  rcases h.setBytes_written (n.bytes b.order value) (by rwa [length_bytes]) with
    ⟨m', hset, hsound, hwritten⟩
  refine ⟨m', ?_, hwritten, shows_of_getWord (getWord_of_written hwritten rfl hsound.backed hin)⟩
  rw [useWord, setWord, encode_bitsOf, hset]
  rfl

theorem sound_write (h : b.Sound m) (hroom : n.width ≤ b.maxWritableBytes) :
    ∃ b' m', useWord b m n (.write value) = .ok (.count n.width, b', m') ∧
      b' = { b with regions := b'.regions, writer := b.writer + n.width } ∧
      b.Written m b' m' b.writer (n.bytes b.order value) ∧ Shows b' m' n value b.writer ∧
      ShowsNext { b' with reader := b.writer } m' n value := by
  rcases h.write_written (n.bytes b.order value) (by rwa [length_bytes]) with
    ⟨rs, m', hwrite, hsound, hwritten⟩
  rw [length_bytes] at hwrite hsound hwritten
  have hin : b.writer + n.width ≤ span rs := hsound.valid.writer_le_capacity
  have hword := getWord_of_written hwritten rfl hsound.backed hin
  refine ⟨_, m', ?_, rfl, hwritten, shows_of_getWord hword, showsNext_of_getWord ?_ hword⟩
  · rw [useWord, writeWord, encode_bitsOf, hwrite]
  · exact Nat.le_of_eq (Nat.add_sub_cancel_left _ _).symm

theorem sound_ahead (h : b.Sound m) (hroom : n.width ≤ b.reader) :
    ∃ m', useWord b m n (.writeAhead value) =
        .ok (.done, { b with reader := b.reader - n.width }, m') ∧
      b.Written m { b with reader := b.reader - n.width } m' (b.reader - n.width)
        (n.bytes b.order value) ∧
      ShowsNext { b with reader := b.reader - n.width } m' n value := by
  rcases h.writeAhead_written (n.bytes b.order value) (by rwa [length_bytes]) with
    ⟨m', hahead, hsound, hwritten⟩
  rw [length_bytes] at hahead hsound hwritten
  have hreader := h.valid.reader_le_writer
  have hwriter := h.valid.writer_le_capacity
  have hin : b.reader - n.width + n.width ≤ b.capacity := by omega
  -- The cursors are in order, so the bytes before the reader are within the capacity and can
  -- be read once the reader is in front of them.
  refine ⟨m', ?_, hwritten, showsNext_of_getWord ?_
    (getWord_of_written hwritten rfl hsound.backed hin)⟩
  · rw [useWord, writeWordAhead, encode_bitsOf, hahead]
    rfl
  · change n.width ≤ b.writer - (b.reader - n.width)
    omega

/-- What can be said of any kind of number in a sound buffer. -/
theorem sound_numbers (h : b.Sound m) (n : Numeral) (value : Int) : Numbers b m n value where
  exact := answer_of_holds
  turned := bytes_big n value
  set index hin := sound_set h hin
  beyond index hout := by
    -- Where the bytes do not fit, the error tells of them what it would tell of the word.
    have hset := setBytes_error m (n.bytes b.order value) (by rwa [length_bytes] :
      b.capacity < index + (n.bytes b.order value).length)
    rw [length_bytes] at hset
    rw [useWord, setWord, encode_bitsOf, hset]
    rfl
  write hroom := sound_write h hroom
  full hroom := by
    have hwrite : b.write m (n.bytes b.order value) = (0, b, m) :=
      h.write_refused (by rwa [length_bytes])
    rw [useWord, writeWord, encode_bitsOf, hwrite]
  ahead hroom := sound_ahead h hroom
  noRoom hroom := by
    have hahead : b.writeAhead m (n.bytes b.order value) =
        .error (.range (.noRoomAhead n.width b.reader)) := by
      rw [Buffer.writeAhead, length_bytes, if_pos hroom]
    rw [useWord, writeWordAhead, encode_bitsOf, hahead]
    rfl
  next hw := by
    have hword := getWord_ok (m := m) (h.valid.reader_add_le hw)
    exact ⟨_, useWord_get hword, useWord_next hw hword⟩
  short hw := by
    have hread := tryReadWord_error (m := m) hw
    rw [useWord, useWord, readWord, hread, ← showWord_zero]
    exact ⟨rfl, rfl⟩

/-- What a program reads after it has written a number to a buffer that is flat or laid over
    parts of its own. If fewer bytes are left than are to be read, the program goes on as if it
    had not tried. Numbers of three bytes are put together by hand, and what is promised holds
    of them as of the others. -/
theorem run_numbers (steps : List BufferStep) {x : String} {b : Buffer}
    (hb : (run {} steps).2.get? x = some b) (hplain : b.Plain) (n : Numeral) (value : Int) :
    Numbers b (run {} steps).2.memory n value ∧
      (∀ shown, b.readableBytes < n.width →
        (run {} steps).2.step ⟨x, shown, .inr (.word n .tryRead)⟩ =
          (.failed (.range (.unreadable n.width b.readableBytes)), (run {} steps).2)) ∧
      ∀ shown use, (run {} steps).2.step ⟨x, shown, .inr (.word n use)⟩ =
        match useWord b (run {} steps).2.memory n use with
        | .ok (reply, b', m') => (run {} steps).2.after x reply b' m'
        | .error cause => (.failed cause, (run {} steps).2) := by
  have hr := run_sound sound_nil steps
  have hnumbers := sound_numbers (hplain.sound (hr x b hb)) n value
  refine ⟨hnumbers, fun shown hshort => ?_, fun shown use => ?_⟩
  · rw [step_working hr hb, work, (hnumbers.short hshort).1]
    rfl
  · rw [step_working hr hb, work]
    cases useWord b (run {} steps).2.memory n use <;> rfl

/-- Two parts laid end to end, and one byte read. -/
def sampleParted : List BufferStep :=
  [⟨"laid", "laid", .inl (.wrapParts .little [[1, 2], [3, 4, 5]])⟩,
   ⟨"laid", "laid", .inr (.skip 1)⟩]

/-- The buffer over the two parts. -/
def sampleSpanned : Buffer where
  regions := [⟨0, 0, 2⟩, ⟨1, 0, 3⟩]
  order := .little
  reader := 1
  writer := 5
  maxCapacity := 5

/-- Three bytes are put across the place where the parts meet, and are read as a negative
    number as well. -/
theorem run_numbers_sampleParted :
    let r := (run {} sampleParted).2
    ∃ b m', r.get? "laid" = some b ∧ b.Plain ∧
      useWord b r.memory ⟨3, .unsigned⟩ (.set 1 0x01FFFFFE) = .ok (.done, b, m') ∧
      useWord b m' ⟨3, .unsigned⟩ (.get 1) = .ok (.number 0xFFFFFE, b, m') ∧
      useWord b m' ⟨3, .signed⟩ (.get 1) = .ok (.number (-2), b, m') ∧
      m'.byteAt b.regions 4 = some 5 := by
  intro r
  have hlaid : r.get? "laid" = some sampleSpanned := by decide
  have hplain : sampleSpanned.Plain := Or.inr ⟨{}, .little, [[1, 2], [3, 4, 5]], by decide⟩
  have hnumbers := (run_numbers sampleParted hlaid hplain ⟨3, .unsigned⟩ 0x01FFFFFE).1
  rcases hnumbers.set 1 (by decide) with ⟨m', hset, hwritten, hshown⟩
  refine ⟨_, m', hlaid, hplain, hset, hshown .unsigned, hshown .signed, ?_⟩
  rw [hwritten.others 4 (by decide) (Or.inr (by decide))]
  decide

end Registers

end Conduit
