import Conduit.Buffer.Scan
import Conduit.Buffer.Snapshot
import Conduit.Proofs.Buffer.Mirror

/-!
# Alike Buffers

Two buffers are alike if they have the same cursors, marks, order and ceiling, and
look at partners in two memories that mirror each other. Whatever is done to one and
to the other gives the same answers and leaves them alike. Where a new cell comes up
on both sides, its bytes become partners, so results are alike under a pairing that
goes further than the one before; `Paired` says that there is one.

Buffers that are alike need not be cut into the same regions. They can be told apart
by their parts then, and by nothing else.

## Main definitions

* `Snapshot.blur`: What does not tell the regions apart.
* `Buffer.Alike`: Two buffers that differ in their regions, over partners.
* `Buffer.Paired`: Alike buffers in memories that mirror each other.
* `Buffer.Matched`: The same answer, and paired buffers.

## Theorems

* `Paired.next`, `Paired.ofBytes`: Pairing further, and a new cell on both sides.
* `Alike.here`, `Alike.mono`, `Alike.laid`: Alike buffers under more partners, and their
  regions.
* `Alike.order`, `Alike.reader`, `Alike.writer`, `Alike.readerMark`, `Alike.writerMark`,
  `Alike.maxCapacity`, `Alike.capacity`, `Alike.readableBytes`, `Alike.writableBytes`,
  `Alike.isReadable`, `Alike.isWritable`, `Alike.maxWritableBytes`, `Alike.grownCapacity`,
  `Alike.valid`: The figures of both are the same.
* `Alike.peek`, `Alike.content`: What is read is the same on both sides.
* `Alike.isComposite`, `Alike.snapshot`, `Alike.debug`: So is all else that is shown, where
  the cuts are the same.
* `Alike.blur_snapshot`: And where they are not, all but that.
* `Alike.checkWindow`, `Alike.checkReadable`: Both pass the same checks.
* `Alike.indexOfBy`, `Alike.bytesBeforeBy`, `Alike.indexOf`, `Alike.bytesBefore`: A search
  finds the same, with the same questions.
* `Alike.toText`, `Alike.hexDump`, `Alike.hexDumpOf`, `Alike.hashCode`: Texts and hashes.
* `Alike.setReader`, `Alike.setWriter`, `Alike.setCursors`, `Alike.resetReader`,
  `Alike.resetWriter`, `Alike.clear`, `Alike.markReader`, `Alike.markWriter`,
  `Alike.withOrder`, `Alike.withReader`, `Alike.withWriter`, `Alike.advanceReader`,
  `Alike.skip`: Moving the cursors.
* `Alike.reallocate`, `Alike.ensureWritable`, `Alike.ensureWritableBytes`: Making room.
* `Alike.store`, `Alike.discardReadBytes`, `Alike.write`, `Alike.writeZero`,
  `Alike.writeAhead`, `Alike.writeZeroAhead`, `Alike.drainInto`, `Alike.setBytes`,
  `Alike.setZero`: Writing.
* `Alike.getBytes`, `Alike.readInto`, `Alike.getWord`, `Alike.setWord`, `Alike.tryReadWord`,
  `Alike.readWord`, `Alike.writeWordAhead`, `Alike.writeWord`: Bytes and words.
* `Alike.ofRegions`, `Alike.slice`, `Alike.readableSlice`, `Alike.readSlice`, `Alike.copy`,
  `Alike.readBytes`, `Alike.parts`, `Alike.decompose`, `Alike.components`: Views and copies.
* `compareRest_self`, `compareWords_self`, `content_of_sharesWindow`, `equals_eq`: The
  shortcut of a comparison finds what a comparison would find.
* `Alike.compareTo`, `Alike.equals`: Comparing.
* `Paired.empty`, `Paired.growable`, `Paired.fixed`, `Paired.wrap`, `Paired.copied`,
  `Paired.allocAll`, `Paired.wrapParts`, `Paired.copyParts`, `Paired.bufferOf`: New buffers.
* `commonOrder_alike`, `map_readableBytes_alike`, `flatMap_content_alike`,
  `laid_readable`: What several sources have in common.
* `Alike.wrapAll`, `Paired.copyAll`: Buffers made of several.
-/

namespace Conduit

open Region List

/-- What can be seen of a buffer, but for whether it is laid over several regions. -/
def Snapshot.blur (s : Snapshot) : Snapshot := { s with isComposite := false }

namespace Buffer

/-- Two buffers that differ in their regions only, and those are over partners. -/
inductive Alike (cut : Prop) (R : Pairing) : Buffer → Buffer → Prop
  | mk {b : Buffer} {ss : List Region} :
    Laid cut R b.regions ss → Alike cut R b { b with regions := ss }

/-- Alike buffers in memories that mirror each other, through a pairing that goes further. -/
def Paired (cut : Prop) (R : Pairing) (x y : Buffer × Memory) : Prop :=
  ∃ R' : Pairing, Subrelation R R' ∧ x.2.Mirrors R' y.2 ∧ Alike cut R' x.1 y.1

/-- The same answer, and paired buffers. -/
def Matched {α : Type} (cut : Prop) (R : Pairing) (x y : α × Buffer × Memory) : Prop :=
  x.1 = y.1 ∧ Paired cut R x.2 y.2

variable {cut : Prop} {R R' : Pairing} {m n : Memory} {b c b' c' : Buffer}

/-- What has been paired can be paired further. -/
theorem Paired.next {x y x' y' : Buffer × Memory} (h : Paired cut R x y)
    (hnext : ∀ R', x.2.Mirrors R' y.2 → Alike cut R' x.1 y.1 → Paired cut R' x' y') :
    Paired cut R x' y' := by
  rcases h with ⟨R', hR, hm, h⟩
  rcases hnext R' hm h with ⟨R'', hR', hm', h'⟩
  exact ⟨R'', fun hab => hR' (hR hab), hm', h'⟩

/-- A buffer over a new cell, with the same bytes on both sides. -/
theorem Paired.ofBytes (hm : m.Mirrors R n) (order : ByteOrder) (bytes : Array UInt8)
    (writer maxCapacity : Nat) :
    Paired cut R (Buffer.ofBytes m order bytes writer maxCapacity)
      (Buffer.ofBytes n order bytes writer maxCapacity) := by
  rcases hm.alloc bytes with ⟨R', hR, hm', hlaid⟩
  exact ⟨R', hR, hm', .mk (hlaid cut)⟩

namespace Alike

theorem here (h : Alike cut R b c) (hm : m.Mirrors R n) : Paired cut R (b, m) (c, n) :=
  ⟨R, fun hab => hab, hm, h⟩

theorem mono (h : Alike cut R b c) (hR : Subrelation R R') : Alike cut R' b c := by
  cases h with
  | mk h => exact .mk (h.mono hR)

theorem laid (h : Alike cut R b c) : Laid cut R b.regions c.regions := by
  cases h with
  | mk h => exact h

/-! ### What can be seen -/

theorem order (h : Alike cut R b c) : c.order = b.order := by cases h; rfl

theorem reader (h : Alike cut R b c) : c.reader = b.reader := by cases h; rfl

theorem writer (h : Alike cut R b c) : c.writer = b.writer := by cases h; rfl

theorem readerMark (h : Alike cut R b c) : c.readerMark = b.readerMark := by cases h; rfl

theorem writerMark (h : Alike cut R b c) : c.writerMark = b.writerMark := by cases h; rfl

theorem maxCapacity (h : Alike cut R b c) : c.maxCapacity = b.maxCapacity := by cases h; rfl

theorem capacity (h : Alike cut R b c) : c.capacity = b.capacity := h.laid.span_eq

theorem readableBytes (h : Alike cut R b c) : c.readableBytes = b.readableBytes := by
  cases h; rfl

theorem writableBytes (h : Alike cut R b c) : c.writableBytes = b.writableBytes := by
  rw [Buffer.writableBytes, h.capacity, h.writer, Buffer.writableBytes]

theorem isReadable (h : Alike cut R b c) : c.isReadable = b.isReadable := by
  rw [Buffer.isReadable, h.readableBytes, Buffer.isReadable]

theorem isWritable (h : Alike cut R b c) : c.isWritable = b.isWritable := by
  rw [Buffer.isWritable, h.writableBytes, Buffer.isWritable]

theorem maxWritableBytes (h : Alike cut R b c) : c.maxWritableBytes = b.maxWritableBytes := by
  cases h; rfl

theorem grownCapacity (h : Alike cut R b c) (target : Nat) :
    c.grownCapacity target = b.grownCapacity target := by cases h; rfl

theorem valid (h : Alike cut R b c) (hb : b.Valid) : c.Valid := by
  have hcapacity := h.capacity
  cases h with
  | mk h =>
      exact ⟨hb.reader_le_writer, hcapacity ▸ hb.writer_le_capacity, hcapacity ▸ hb.capacity_le_max⟩

/-- The same bytes are at every index. -/
theorem peek (h : Alike cut R b c) (hm : m.Mirrors R n) (index length : Nat) :
    c.peek n index length = b.peek m index length :=
  (hm.load h.laid.places index length).symm

theorem content (h : Alike cut R b c) (hm : m.Mirrors R n) : c.content n = b.content m := by
  rw [Buffer.content, h.reader, h.readableBytes, h.peek hm, Buffer.content]

theorem isComposite (h : Alike cut R b c) (hcut : cut) : c.isComposite = b.isComposite := by
  have hlength := congrArg List.length (h.laid.cuts hcut)
  rw [List.length_map, List.length_map] at hlength
  rw [Buffer.isComposite, Buffer.isComposite, hlength]

theorem blur_snapshot (h : Alike cut R b c) (hm : m.Mirrors R n) :
    (c.snapshot n).blur = (b.snapshot m).blur := by
  simp only [Snapshot.blur, Buffer.snapshot, h.reader, h.writer, h.capacity, h.maxCapacity,
    h.order, h.content hm]

theorem snapshot (h : Alike cut R b c) (hm : m.Mirrors R n) (hcut : cut) :
    c.snapshot n = b.snapshot m := by
  simp only [Buffer.snapshot, h.reader, h.writer, h.capacity, h.maxCapacity, h.order,
    h.content hm, h.isComposite hcut]

theorem debug (h : Alike cut R b c) (hcut : cut) : c.debug = b.debug := by
  have hcomposite := h.isComposite hcut
  unfold Buffer.debug
  rw [h.reader, h.writer, h.capacity, h.maxCapacity, h.order, hcomposite]

theorem checkWindow (h : Alike cut R b c) (index length : Nat) :
    c.checkWindow index length = b.checkWindow index length := by
  rw [Buffer.checkWindow, h.capacity, Buffer.checkWindow]

theorem checkReadable (h : Alike cut R b c) (length : Nat) :
    c.checkReadable length = b.checkReadable length := by
  rw [Buffer.checkReadable, h.readableBytes, Buffer.checkReadable]

/-- A scan meets the same bytes. -/
theorem indexOfBy {σ : Type} (h : Alike cut R b c) (hm : m.Mirrors R n) (start stop : Nat)
    (ask : Question σ) (s : σ) :
    c.indexOfBy n start stop ask s = b.indexOfBy m start stop ask s := by
  have hbyte : ∀ index, n.byteAt c.regions index = m.byteAt b.regions index := fun index =>
    (hm.byteAt h.laid.places index).symm
  -- Up and down alike: the answers are the same so far, so the next question is too.
  have hup : ∀ count index s,
      c.findUp n ask index count s = b.findUp m ask index count s := by
    intro count
    induction count with
    | zero => exact fun _ _ => rfl
    | succ count ih =>
        intro index s
        simp only [findUp, hbyte, ih]
  have hdown : ∀ count s,
      c.findDown n ask stop count s = b.findDown m ask stop count s := by
    intro count
    induction count with
    | zero => exact fun _ => rfl
    | succ count ih =>
        intro s
        simp only [findDown, hbyte, ih]
  rw [Buffer.indexOfBy, Buffer.indexOfBy, h.capacity, hup, hdown]

theorem bytesBeforeBy {σ : Type} (h : Alike cut R b c) (hm : m.Mirrors R n) (ask : Question σ)
    (s : σ) : c.bytesBeforeBy n ask s = b.bytesBeforeBy m ask s := by
  rw [Buffer.bytesBeforeBy, Buffer.bytesBeforeBy, h.reader, h.writer, h.indexOfBy hm]

theorem indexOf (h : Alike cut R b c) (hm : m.Mirrors R n) (start stop : Nat) (value : UInt8) :
    c.indexOf n start stop value = b.indexOf m start stop value := by
  rw [Buffer.indexOf, h.indexOfBy hm, Buffer.indexOf]

theorem bytesBefore (h : Alike cut R b c) (hm : m.Mirrors R n) (value : UInt8) :
    c.bytesBefore n value = b.bytesBefore m value := by
  rw [Buffer.bytesBefore, h.bytesBeforeBy hm, Buffer.bytesBefore]

theorem toText (h : Alike cut R b c) (hm : m.Mirrors R n) : c.toText n = b.toText m := by
  rw [Buffer.toText, h.content hm, Buffer.toText]

theorem hexDump (h : Alike cut R b c) (hm : m.Mirrors R n) : c.hexDump n = b.hexDump m := by
  rw [Buffer.hexDump, h.content hm, Buffer.hexDump]

theorem hashCode (h : Alike cut R b c) (hm : m.Mirrors R n) : c.hashCode n = b.hashCode m := by
  rw [Buffer.hashCode, h.content hm, Buffer.hashCode]

/-! ### Moving the cursors -/

theorem setReader (h : Alike cut R b c) (index : Nat) :
    Agree (Alike cut R) (b.setReader index) (c.setReader index) := by
  cases h with
  | mk h => exact Agree.ite (Agree.error _) (Agree.ok (.mk h))

theorem setWriter (h : Alike cut R b c) (index : Nat) :
    Agree (Alike cut R) (b.setWriter index) (c.setWriter index) := by
  have hcapacity := h.capacity
  cases h with
  | mk h =>
      rw [Buffer.setWriter, Buffer.setWriter, hcapacity]
      exact Agree.ite (Agree.error _) (Agree.ok (.mk h))

theorem setCursors (h : Alike cut R b c) (reader writer : Nat) :
    Agree (Alike cut R) (b.setCursors reader writer) (c.setCursors reader writer) := by
  have hcapacity := h.capacity
  cases h with
  | mk h =>
      rw [Buffer.setCursors, Buffer.setCursors, hcapacity]
      exact Agree.ite (Agree.error _) (Agree.ok (.mk h))

theorem resetReader (h : Alike cut R b c) :
    Agree (Alike cut R) b.resetReader c.resetReader := by
  rw [Buffer.resetReader, Buffer.resetReader, h.readerMark]
  exact h.setReader _

theorem resetWriter (h : Alike cut R b c) :
    Agree (Alike cut R) b.resetWriter c.resetWriter := by
  rw [Buffer.resetWriter, Buffer.resetWriter, h.writerMark]
  exact h.setWriter _

theorem clear (h : Alike cut R b c) : Alike cut R b.clear c.clear := by
  cases h with
  | mk h => exact .mk h

theorem markReader (h : Alike cut R b c) : Alike cut R b.markReader c.markReader := by
  cases h with
  | mk h => exact .mk h

theorem markWriter (h : Alike cut R b c) : Alike cut R b.markWriter c.markWriter := by
  cases h with
  | mk h => exact .mk h

theorem withOrder (h : Alike cut R b c) (order : ByteOrder) :
    Alike cut R (b.withOrder order) (c.withOrder order) := by
  cases h with
  | mk h => exact .mk h

theorem withReader (h : Alike cut R b c) (reader : Nat) :
    Alike cut R { b with reader := reader } { c with reader := reader } := by
  cases h with
  | mk h => exact .mk h

theorem withWriter (h : Alike cut R b c) (writer : Nat) :
    Alike cut R { b with writer := writer } { c with writer := writer } := by
  cases h with
  | mk h => exact .mk h

theorem advanceReader (h : Alike cut R b c) (length : Nat) :
    Alike cut R { b with reader := b.reader + length } { c with reader := c.reader + length } := by
  rw [h.reader]
  exact h.withReader _

/-! ### Making room -/

theorem reallocate (h : Alike cut R b c) (hm : m.Mirrors R n) (capacity : Nat) :
    Paired cut R (b.reallocate m capacity) (c.reallocate n capacity) := by
  rw [Buffer.reallocate, Buffer.reallocate, h.capacity, h.peek hm]
  -- As many bytes are copied on both sides, and they are the same.
  by_cases hmore : capacity ≤ b.capacity
  · rw [if_pos hmore, if_pos hmore]
    exact h.here hm
  · rw [if_neg hmore, if_neg hmore]
    rcases hm.alloc ((b.peek m 0 b.capacity).toArray ++
      Array.replicate (capacity - b.capacity) 0) with ⟨R', hR, hm', hlaid⟩
    cases h with
    | mk h => exact ⟨R', hR, hm', .mk (hlaid cut)⟩

theorem ensureWritable (h : Alike cut R b c) (hm : m.Mirrors R n) (wanted : Nat) (force : Bool) :
    Matched cut R (b.ensureWritable m wanted force) (c.ensureWritable n wanted force) := by
  rw [Buffer.ensureWritable, Buffer.ensureWritable, h.writableBytes, h.maxWritableBytes,
    h.capacity, h.maxCapacity, h.writer, h.grownCapacity]
  by_cases hfits : wanted ≤ b.writableBytes
  · rw [if_pos hfits, if_pos hfits]
    exact ⟨rfl, h.here hm⟩
  · rw [if_neg hfits, if_neg hfits]
    by_cases hroom : b.maxWritableBytes < wanted
    · rw [if_pos hroom, if_pos hroom]
      by_cases hforce : (!force || b.capacity == b.maxCapacity) = true
      · rw [if_pos hforce, if_pos hforce]
        exact ⟨rfl, h.here hm⟩
      · rw [if_neg hforce, if_neg hforce]
        exact ⟨rfl, h.reallocate hm _⟩
    · rw [if_neg hroom, if_neg hroom]
      exact ⟨rfl, h.reallocate hm _⟩

theorem ensureWritableBytes (h : Alike cut R b c) (hm : m.Mirrors R n) (wanted : Nat) :
    Agree (Paired cut R) (b.ensureWritableBytes m wanted) (c.ensureWritableBytes n wanted) := by
  rw [Buffer.ensureWritableBytes, Buffer.ensureWritableBytes, h.writableBytes,
    h.maxWritableBytes, h.maxCapacity, h.writer, h.grownCapacity]
  exact Agree.ite (Agree.ok (h.here hm))
    (Agree.ite (Agree.error _) (Agree.ok (h.reallocate hm _)))

/-- Writing the same bytes at the same index. -/
theorem store (h : Alike cut R b c) (hm : m.Mirrors R n) (index : Nat) (src : Bytes) :
    (m.store b.regions index src).Mirrors R (n.store c.regions index src) :=
  hm.store h.laid.places index src

theorem discardReadBytes (h : Alike cut R b c) (hm : m.Mirrors R n) :
    Paired cut R (b.discardReadBytes m) (c.discardReadBytes n) := by
  rw [Buffer.discardReadBytes, Buffer.discardReadBytes, h.reader, h.content hm]
  by_cases hzero : b.reader = 0
  · rw [if_pos hzero, if_pos hzero]
    exact h.here hm
  · rw [if_neg hzero, if_neg hzero]
    have hstored := h.store hm 0 (b.content m)
    cases h with
    | mk h => exact Alike.here (.mk h) hstored

/-! ### Writing at the cursors -/

theorem write (h : Alike cut R b c) (hm : m.Mirrors R n) (src : Bytes) :
    Matched cut R (b.write m src) (c.write n src) := by
  rw [Buffer.write, Buffer.write]
  by_cases hnil : src.isEmpty = true
  · rw [if_pos hnil, if_pos hnil]
    exact ⟨rfl, h.here hm⟩
  · rw [if_neg hnil, if_neg hnil]
    have hensured := h.ensureWritable hm src.length false
    generalize b.ensureWritable m src.length false = x at hensured ⊢
    generalize c.ensureWritable n src.length false = y at hensured ⊢
    rcases x with ⟨v, b', m'⟩
    rcases y with ⟨v', c', n'⟩
    rcases hensured with ⟨rfl, hpaired⟩
    -- What comes after asking for room, whichever way it was found.
    have hwritten : Matched cut R
        (src.length, { b' with writer := b'.writer + src.length },
          m'.store b'.regions b'.writer src)
        (src.length, { c' with writer := c'.writer + src.length },
          n'.store c'.regions c'.writer src) :=
      ⟨rfl, hpaired.next fun R' hm' h' => by
        rw [show c'.writer = b'.writer from h'.writer]
        exact (h'.withWriter _).here (h'.store hm' _ src)⟩
    cases v with
    | sufficient | grew => exact hwritten
    | grewToMax | exhausted => exact ⟨rfl, hpaired⟩

theorem writeZero (h : Alike cut R b c) (hm : m.Mirrors R n) (length : Nat) :
    Matched cut R (b.writeZero m length) (c.writeZero n length) := by
  rw [Buffer.writeZero, Buffer.writeZero]
  have hensured := h.ensureWritable hm length true
  generalize b.ensureWritable m length true = x at hensured ⊢
  generalize c.ensureWritable n length true = y at hensured ⊢
  rcases x with ⟨v, b', m'⟩
  rcases y with ⟨v', c', n'⟩
  -- The room may have been found elsewhere, but on both sides there is as much of it.
  rcases hensured with ⟨-, hpaired⟩
  have hroom : c'.writableBytes = b'.writableBytes := by
    rcases hpaired with ⟨R', -, -, h'⟩
    exact h'.writableBytes
  refine ⟨?_, hpaired.next fun R' hm' h' => ?_⟩
  · change min length b'.writableBytes = min length c'.writableBytes
    rw [hroom]
  · change Paired cut R'
      ({ b' with writer := b'.writer + min length b'.writableBytes },
        m'.store b'.regions b'.writer (List.replicate (min length b'.writableBytes) 0))
      ({ c' with writer := c'.writer + min length c'.writableBytes },
        n'.store c'.regions c'.writer (List.replicate (min length c'.writableBytes) 0))
    rw [hroom, show c'.writer = b'.writer from h'.writer]
    exact (h'.withWriter _).here (h'.store hm' _ _)

theorem writeAhead (h : Alike cut R b c) (hm : m.Mirrors R n) (src : Bytes) :
    Agree (Paired cut R) (b.writeAhead m src) (c.writeAhead n src) := by
  rw [Buffer.writeAhead, Buffer.writeAhead, h.reader]
  exact Agree.ite (Agree.error _) (Agree.ok ((h.withReader _).here (h.store hm _ src)))

theorem writeZeroAhead (h : Alike cut R b c) (hm : m.Mirrors R n) (length : Nat) :
    Matched cut R (b.writeZeroAhead m length) (c.writeZeroAhead n length) := by
  rw [Buffer.writeZeroAhead, Buffer.writeZeroAhead, h.reader]
  exact ⟨rfl, (h.withReader _).here (h.store hm _ _)⟩

/-- Moving bytes from one buffer into another. -/
theorem drainInto {src dst : Buffer} (hsrc : Alike cut R src dst) (h : Alike cut R b c)
    (hm : m.Mirrors R n) :
    (src.drainInto b m).1 = (dst.drainInto c n).1 ∧
      ∃ R' : Pairing, Subrelation R R' ∧
        (src.drainInto b m).2.2.2.Mirrors R' (dst.drainInto c n).2.2.2 ∧
        Alike cut R' (src.drainInto b m).2.1 (dst.drainInto c n).2.1 ∧
        Alike cut R' (src.drainInto b m).2.2.1 (dst.drainInto c n).2.2.1 := by
  have hcontent := hsrc.content hm
  rcases h.write hm (src.content m) with ⟨hcount, R', hR, hm', h'⟩
  rw [Buffer.drainInto, Buffer.drainInto, hcontent]
  refine ⟨hcount, R', hR, hm', ?_, h'⟩
  change Alike cut R' { src with reader := src.reader + (b.write m (src.content m)).1 }
    { dst with reader := dst.reader + (c.write n (src.content m)).1 }
  -- The reader of the source moves by as much as was taken, and that is the same count.
  rw [← hcount]
  exact (hsrc.mono hR).advanceReader _

/-! ### Bytes and words at an index or at the reader -/

theorem getBytes (h : Alike cut R b c) (hm : m.Mirrors R n) (index length : Nat) :
    c.getBytes n index length = b.getBytes m index length := by
  rw [Buffer.getBytes, Buffer.getBytes, h.checkWindow, h.peek hm]

theorem hexDumpOf (h : Alike cut R b c) (hm : m.Mirrors R n) (index length : Nat) :
    c.hexDumpOf n index length = b.hexDumpOf m index length := by
  rw [Buffer.hexDumpOf, Buffer.hexDumpOf, h.getBytes hm]

theorem setBytes (h : Alike cut R b c) (hm : m.Mirrors R n) (index : Nat) (src : Bytes) :
    Agree (fun m' n' : Memory => m'.Mirrors R n') (b.setBytes m index src)
      (c.setBytes n index src) := by
  rw [Buffer.setBytes, Buffer.setBytes, h.checkWindow]
  exact (Agree.same _).bind fun _ _ _ => Agree.ok (h.store hm index src)

theorem setZero (h : Alike cut R b c) (hm : m.Mirrors R n) (index length : Nat) :
    (b.setZero m index length).1 = (c.setZero n index length).1 ∧
      (b.setZero m index length).2.Mirrors R (c.setZero n index length).2 := by
  rw [Buffer.setZero, Buffer.setZero, h.capacity]
  exact ⟨rfl, h.store hm index _⟩

theorem skip (h : Alike cut R b c) (length : Nat) :
    Agree (Alike cut R) (b.skip length) (c.skip length) := by
  rw [Buffer.skip, Buffer.skip, h.checkReadable]
  exact (Agree.same _).bind fun _ _ _ => Agree.ok (h.advanceReader length)

theorem readInto (h : Alike cut R b c) (hm : m.Mirrors R n) (length : Nat) :
    Agree (fun x y : Bytes × Buffer => x.1 = y.1 ∧ Alike cut R x.2 y.2) (b.readInto m length)
      (c.readInto n length) := by
  have hpeek := h.peek hm c.reader length
  rw [Buffer.readInto, Buffer.readInto, h.checkReadable, hpeek, h.reader]
  exact (Agree.same _).bind fun _ _ _ => Agree.ok ⟨rfl, h.withReader _⟩

theorem getWord (h : Alike cut R b c) (hm : m.Mirrors R n) (w index : Nat) :
    c.getWord n w index = b.getWord m w index := by
  rw [Buffer.getWord, Buffer.getWord, h.getBytes hm, h.order]

theorem setWord (h : Alike cut R b c) (hm : m.Mirrors R n) (index : Nat) {w : Nat} (v : Word w) :
    Agree (fun m' n' : Memory => m'.Mirrors R n') (b.setWord m index v) (c.setWord n index v) := by
  rw [Buffer.setWord, Buffer.setWord, h.order]
  exact h.setBytes hm index _

theorem tryReadWord (h : Alike cut R b c) (hm : m.Mirrors R n) (w : Nat) :
    Agree (fun x y : Word w × Buffer => x.1 = y.1 ∧ Alike cut R x.2 y.2) (b.tryReadWord m w)
      (c.tryReadWord n w) := by
  rw [Buffer.tryReadWord, Buffer.tryReadWord, h.checkReadable, h.reader, h.getWord hm]
  refine (Agree.same _).bind fun _ _ _ => (Agree.same _).bind fun v v' hv => ?_
  exact Agree.ok ⟨hv, h.withReader _⟩

theorem readWord (h : Alike cut R b c) (hm : m.Mirrors R n) (w : Nat) :
    (b.readWord m w).1 = (c.readWord n w).1 ∧
      Alike cut R (b.readWord m w).2 (c.readWord n w).2 := by
  have hread := h.tryReadWord hm w
  rw [Buffer.readWord, Buffer.readWord]
  generalize b.tryReadWord m w = x at hread ⊢
  generalize c.tryReadWord n w = y at hread ⊢
  cases hread with
  | ok hread => exact hread
  | error cause => exact ⟨rfl, h⟩

theorem writeWordAhead (h : Alike cut R b c) (hm : m.Mirrors R n) {w : Nat} (v : Word w) :
    Agree (Paired cut R) (b.writeWordAhead m v) (c.writeWordAhead n v) := by
  rw [Buffer.writeWordAhead, Buffer.writeWordAhead, h.order]
  exact h.writeAhead hm _

theorem writeWord (h : Alike cut R b c) (hm : m.Mirrors R n) {w : Nat} (v : Word w) :
    Matched cut R (b.writeWord m v) (c.writeWord n v) := by
  rw [Buffer.writeWord, Buffer.writeWord, h.order]
  exact h.write hm _

/-! ### Views and copies -/

theorem ofRegions (order : ByteOrder) {rs ss : List Region} (h : Laid cut R rs ss) :
    Alike cut R (Buffer.ofRegions order rs) (Buffer.ofRegions order ss) := by
  have hspan := h.filter.span_eq
  -- The cursor and the ceiling are the span, and that is one figure for both.
  have hsame : Buffer.ofRegions order ss = { Buffer.ofRegions order rs with
      regions := ss.filter fun r => 0 < r.length } := by
    rw [Buffer.ofRegions, Buffer.ofRegions, hspan]
  rw [hsame]
  exact .mk h.filter

theorem slice (h : Alike cut R b c) (index length : Nat) :
    Agree (Alike cut R) (b.slice index length) (c.slice index length) := by
  rw [Buffer.slice, Buffer.slice, h.checkWindow, h.order]
  exact (Agree.same _).bind fun _ _ _ => Agree.ok (ofRegions _ (h.laid.clip index length))

theorem readableSlice (h : Alike cut R b c) : Alike cut R b.readableSlice c.readableSlice := by
  rw [Buffer.readableSlice, Buffer.readableSlice, h.order, h.reader, h.readableBytes]
  exact ofRegions _ (h.laid.clip _ _)

theorem readSlice (h : Alike cut R b c) (length : Nat) :
    Agree (fun x y : Buffer × Buffer => Alike cut R x.1 y.1 ∧ Alike cut R x.2 y.2)
      (b.readSlice length) (c.readSlice length) := by
  rw [Buffer.readSlice, Buffer.readSlice, h.checkReadable, h.reader]
  refine (Agree.same _).bind fun _ _ _ => (h.slice b.reader length).bind fun view view' hview => ?_
  exact Agree.ok ⟨hview, h.withReader _⟩

theorem copy (h : Alike cut R b c) (hm : m.Mirrors R n) (index length : Nat) :
    Agree (Paired cut R) (b.copy m index length) (c.copy n index length) := by
  rw [Buffer.copy, Buffer.copy, h.checkWindow, h.order, h.peek hm]
  exact (Agree.same _).bind fun _ _ _ => Agree.ok (Paired.ofBytes hm _ _ _ _)

theorem readBytes (h : Alike cut R b c) (hm : m.Mirrors R n) (length : Nat) :
    Agree (fun x y : Buffer × Buffer × Memory => ∃ R' : Pairing, Subrelation R R' ∧
        x.2.2.Mirrors R' y.2.2 ∧ Alike cut R' x.1 y.1 ∧ Alike cut R' x.2.1 y.2.1)
      (b.readBytes m length) (c.readBytes n length) := by
  rw [Buffer.readBytes, Buffer.readBytes, h.checkReadable, h.reader]
  refine (Agree.same _).bind fun _ _ _ => (h.copy hm b.reader length).bind fun x y hxy => ?_
  rcases hxy with ⟨R', hR, hm', htaken⟩
  exact Agree.ok ⟨R', hR, hm', htaken, (h.mono hR).withReader _⟩

/-- The parts of a stretch, where both buffers are cut in the same places. -/
theorem parts (h : Alike cut R b c) (hcut : cut) (index length : Nat) :
    Forall₂ (Alike cut R)
      ((clip b.regions index length).map fun r => Buffer.ofRegions b.order [r])
      ((clip c.regions index length).map fun r => Buffer.ofRegions c.order [r]) := by
  rw [h.order, List.forall₂_map_left_iff, List.forall₂_map_right_iff]
  exact ((h.laid.clip index length).pieces hcut).imp fun _ _ hpiece => ofRegions _ hpiece

theorem decompose (h : Alike cut R b c) (hcut : cut) (index length : Nat) :
    Agree (Forall₂ (Alike cut R)) (b.decompose index length) (c.decompose index length) := by
  rw [Buffer.decompose, Buffer.decompose, h.checkWindow]
  exact (Agree.same _).bind fun _ _ _ => Agree.ok (h.parts hcut index length)

theorem components (h : Alike cut R b c) (hcut : cut) :
    Forall₂ (Alike cut R) b.components c.components := by
  rw [Buffer.components, Buffer.components, h.capacity]
  exact h.parts hcut 0 b.capacity

end Alike

/-! ### Comparing -/

theorem compareRest_self (bytes : Bytes) : Bytes.compareWords.compareRest bytes bytes = .eq := by
  induction bytes with
  | nil => rfl
  | cons byte bytes ih =>
      have hself : compare byte byte = .eq := Std.ReflCmp.compare_self
      rw [Bytes.compareWords.compareRest, hself, ih]

/-- Nothing is less or greater than itself. -/
theorem compareWords_self : ∀ bytes : Bytes, Bytes.compareWords bytes bytes = .eq
  | a :: b :: c :: d :: rest => by
    have hself : compare (Bytes.bigWord a b c d) (Bytes.bigWord a b c d) = .eq :=
      Std.ReflCmp.compare_self
    rw [Bytes.compareWords, hself, compareWords_self rest]
  | [] | [_] | [_, _] | [_, _, _] => by
    rw [Bytes.compareWords]
    · -- Fewer than four bytes are no word.
      exact compareRest_self _
    · intros
      simp_all

/-- Two buffers that share a window show the same bytes in it. -/
theorem content_of_sharesWindow {o : Buffer} (hb : b.Valid) (ho : o.Valid) (m : Memory)
    (hreader : b.reader = o.reader) (hreadable : b.readableBytes = o.readableBytes)
    (h : b.sharesWindow o = true) : b.content m = o.content m := by
  -- The stretch of a single region is a region, and does not depend on where the first ends.
  have hwindow : ∀ (d : Buffer) (r : Region), d.Valid → d.regions = [r] →
      d.content m = (r.slice d.reader d.readableBytes).places.filterMap m.byte? := by
    intro d r hd hr
    have hlow := hd.reader_le_writer
    have hhigh := hd.writer_le_capacity
    rw [Buffer.capacity, hr, span_cons, span_nil, Nat.add_zero] at hhigh
    rw [Buffer.content, peek, Memory.load_eq_filterMap, hr, addresses_cons, addresses_nil,
      List.append_nil, places_slice]
    rw [Buffer.readableBytes]
    omega
  have hlist : b.regions = o.regions → b.content m = o.content m := by
    intro hsame
    rw [Buffer.content, Buffer.content, peek, peek, hsame, hreader, hreadable]
  rw [sharesWindow] at h
  split at h
  · -- The windows start at one byte, and one may be the longer.
    next r s hr hs =>
      have hboth : r.cell = s.cell ∧ r.offset = s.offset := by simpa using h
      have hslice : r.slice b.reader b.readableBytes = s.slice b.reader b.readableBytes := by
        rw [Region.slice, Region.slice, hboth.1, hboth.2]
      rw [hwindow b r hb hr, hwindow o s ho hs, hslice, hreader, hreadable]
  · exact hlist (by simpa using h)

/-- The shortcut finds what a comparison would find. -/
theorem equals_eq {o : Buffer} (hb : b.Valid) (ho : o.Valid) (m : Memory) :
    b.equals o m =
      (decide (b.readableBytes = o.readableBytes) && b.compareTo o m == Ordering.eq) := by
  rw [equals]
  by_cases hreadable : b.readableBytes = o.readableBytes
  · rw [if_neg (not_not_intro hreadable), decide_eq_true hreadable, Bool.true_and]
    by_cases hshares : b.reader = o.reader ∧ b.sharesWindow o = true
    · rw [if_pos hshares, compareTo,
        content_of_sharesWindow hb ho m hshares.1 hreadable hshares.2, compareWords_self]
      rfl
    · rw [if_neg hshares]
  · rw [if_pos hreadable, decide_eq_false hreadable, Bool.false_and]

namespace Alike

variable {o p : Buffer}

theorem compareTo (h : Alike cut R b c) (h' : Alike cut R o p) (hm : m.Mirrors R n) :
    c.compareTo p n = b.compareTo o m := by
  rw [Buffer.compareTo, Buffer.compareTo, h.content hm, h'.content hm]

theorem equals (h : Alike cut R b c) (h' : Alike cut R o p) (hm : m.Mirrors R n) (hb : b.Valid)
    (ho : o.Valid) : c.equals p n = b.equals o m := by
  rw [equals_eq (h.valid hb) (h'.valid ho), equals_eq hb ho, h.readableBytes, h'.readableBytes,
    h.compareTo h' hm]

end Alike

/-! ### New buffers -/

namespace Paired

theorem empty (hm : m.Mirrors R n) (order : ByteOrder) :
    Paired cut R (Buffer.empty.withOrder order, m) (Buffer.empty.withOrder order, n) :=
  Alike.here (.mk ⟨Forall₂.nil, fun _ => rfl⟩) hm

theorem growable (hm : m.Mirrors R n) (order : ByteOrder) (capacity : Nat) :
    Paired cut R (Buffer.growable m order capacity) (Buffer.growable n order capacity) :=
  ofBytes hm _ _ _ _

theorem fixed (hm : m.Mirrors R n) (order : ByteOrder) (capacity : Nat) :
    Paired cut R (Buffer.fixed m order capacity) (Buffer.fixed n order capacity) :=
  ofBytes hm _ _ _ _

theorem wrap (hm : m.Mirrors R n) (order : ByteOrder) (bytes : Bytes) :
    Paired cut R (Buffer.wrap m order bytes) (Buffer.wrap n order bytes) := by
  rw [Buffer.wrap, Buffer.wrap]
  by_cases hnil : bytes.isEmpty = true
  · rw [if_pos hnil, if_pos hnil]
    exact empty hm order
  · rw [if_neg hnil, if_neg hnil]
    exact ofBytes hm _ _ _ _

theorem copied (hm : m.Mirrors R n) (order : ByteOrder) (bytes : Bytes) :
    Paired cut R (Buffer.copied m order bytes) (Buffer.copied n order bytes) := by
  rw [Buffer.copied, Buffer.copied]
  by_cases hnil : bytes.isEmpty = true
  · rw [if_pos hnil, if_pos hnil]
    exact empty hm order
  · rw [if_neg hnil, if_neg hnil]
    exact ofBytes hm _ _ _ _

/-- A new cell for each part on both sides. -/
theorem allocAll (hm : m.Mirrors R n) (parts : List Bytes) :
    ∃ R' : Pairing, Subrelation R R' ∧
      (Buffer.allocAll m parts).2.Mirrors R' (Buffer.allocAll n parts).2 ∧
      Laid cut R' (Buffer.allocAll m parts).1 (Buffer.allocAll n parts).1 := by
  induction parts generalizing m n R with
  | nil => exact ⟨R, fun hab => hab, hm, Forall₂.nil, fun _ => rfl⟩
  | cons part parts ih =>
      -- What was paired for the first part stays paired while the others are made.
      rcases hm.alloc part.toArray with ⟨R', hR, hm', hfirst⟩
      rcases ih hm' with ⟨R'', hR', hm'', hrest⟩
      exact ⟨R'', fun hab => hR' (hR hab), hm'', ((hfirst cut).mono hR').append hrest⟩

theorem wrapParts (hm : m.Mirrors R n) (order : ByteOrder) (parts : List Bytes) :
    Paired cut R (Buffer.wrapParts m order parts) (Buffer.wrapParts n order parts) := by
  rcases allocAll hm (parts.filter (!·.isEmpty)) with ⟨R', hR, hm', hlaid⟩
  exact ⟨R', hR, hm', Alike.ofRegions order hlaid⟩

theorem copyParts (hm : m.Mirrors R n) (order : ByteOrder) (parts : List Bytes) :
    Agree (Paired cut R) (Buffer.copyParts m order parts) (Buffer.copyParts n order parts) :=
  (Agree.same _).bind fun _ _ _ => Agree.ok (copied hm order _)

/-- A buffer that is filled as soon as it is made. -/
theorem bufferOf (hm : m.Mirrors R n) (f : BufferFactory) (bytes : Bytes) :
    Paired cut R (f.bufferOf m bytes) (f.bufferOf n bytes) :=
  (growable hm f.order bytes.length).next fun _ hm' h' => (h'.write hm' bytes).2

end Paired

/-! ### Several sources -/

section Sources

variable {bs cs : List Buffer}

/-- Alike sources have the same order in common, or none. -/
theorem commonOrder_alike (h : Forall₂ (Alike cut R) bs cs) : commonOrder cs = commonOrder bs := by
  have hkept : Forall₂ (Alike cut R) (bs.filter (·.isReadable)) (cs.filter (·.isReadable)) :=
    List.rel_filter (fun _ _ (h : Alike cut R _ _) => Eq.to_iff (by simp only [h.isReadable])) h
  have hall : ∀ (order : ByteOrder) {bs cs : List Buffer}, Forall₂ (Alike cut R) bs cs →
      cs.all (·.order == order) = bs.all (·.order == order) := by
    intro order bs cs h
    induction h with
    | nil => rfl
    | cons hfirst _ ih => rw [List.all_cons, List.all_cons, hfirst.order, ih]
  rw [commonOrder, commonOrder]
  -- The order is that of the first readable source, if all others have it.
  generalize bs.filter (·.isReadable) = rs at hkept ⊢
  generalize cs.filter (·.isReadable) = ss at hkept ⊢
  cases hkept with
  | nil => rfl
  | cons hfirst hrest => simp only [hfirst.order, hall _ hrest]

theorem map_readableBytes_alike (h : Forall₂ (Alike cut R) bs cs) :
    cs.map (·.readableBytes) = bs.map (·.readableBytes) := by
  induction h with
  | nil => rfl
  | cons hfirst _ ih => rw [List.map_cons, List.map_cons, hfirst.readableBytes, ih]

theorem flatMap_content_alike (h : Forall₂ (Alike cut R) bs cs) (hm : m.Mirrors R n) :
    cs.flatMap (·.content n) = bs.flatMap (·.content m) := by
  induction h with
  | nil => rfl
  | cons hfirst _ ih => rw [List.flatMap_cons, List.flatMap_cons, hfirst.content hm, ih]

/-- The readable bytes of alike sources, laid end to end. -/
theorem laid_readable (h : Forall₂ (Alike cut R) bs cs) :
    Laid cut R (bs.flatMap fun b => clip b.regions b.reader b.readableBytes)
      (cs.flatMap fun c => clip c.regions c.reader c.readableBytes) := by
  induction h with
  | nil => exact ⟨Forall₂.nil, fun _ => rfl⟩
  | cons hfirst _ ih =>
      rw [List.flatMap_cons, List.flatMap_cons, hfirst.reader, hfirst.readableBytes]
      exact (hfirst.laid.clip _ _).append ih

theorem Alike.wrapAll (h : Forall₂ (Alike cut R) bs cs) :
    Agree (Alike cut R) (Buffer.wrapAll bs) (Buffer.wrapAll cs) := by
  rw [Buffer.wrapAll, Buffer.wrapAll, commonOrder_alike h]
  refine (Agree.same _).bind fun order order' horder => ?_
  subst horder
  exact Agree.ok (Alike.ofRegions order (laid_readable h))

theorem Paired.copyAll (hm : m.Mirrors R n) (h : Forall₂ (Alike cut R) bs cs) :
    Agree (Paired cut R) (Buffer.copyAll m bs) (Buffer.copyAll n cs) := by
  rw [Buffer.copyAll, Buffer.copyAll, commonOrder_alike h, map_readableBytes_alike h,
    flatMap_content_alike h hm]
  refine (Agree.same _).bind fun order order' horder => (Agree.same _).bind fun _ _ _ => ?_
  subst horder
  exact Agree.ok (Paired.copied hm order _)

end Sources

end Buffer

end Conduit
