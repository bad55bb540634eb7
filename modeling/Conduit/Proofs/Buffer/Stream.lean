import Conduit.Proofs.Buffer.Growth
import Mathlib.Logic.Relation

/-!
# A Buffer as a Stream

A growable buffer into which bytes are written at one end, and from which they are read
at the other. It may grow and move its bytes to the front in between, and it has a mark
to which the reader can go back. All of that puts the same bytes at other indices. A
`Flow` keeps a record of what should not notice: the bytes that the writing calls say
they have written, the bytes that the reading calls have given out, and how many of
those there were at the last mark and at the last compaction.

The record is what a user of the buffer knows, and is made up from the results of the
calls alone. `Moves` says what the results are: as many bytes are given out as were asked
for, and as many are written as fit under the ceiling. `Kept` ties it to the buffer.
Index `i` of the buffer is position `gone + i` of the stream, where `gone` is what had
been read at the last compaction, and so the mark is where it was set, or at the oldest
byte that is still there.

Memory is shared, and other buffers may be at work in it between two calls. They may
take new cells and write where they like, as long as it is not a byte of this buffer.

## Main definitions

* `Flow`: A buffer, and the record of what has gone through it.
* `Flow.perform`: One call.
* `Flow.Moves`: What a call that succeeds adds to the record.
* `Flow.Step`: A call that succeeds, or work elsewhere.
* `Flow.Kept`: The record is right.

## Theorems

* `Sound.room_of_forced`: How much room a buffer has that was forced to grow.
* `Sound.write_appends`, `Sound.writeZero_appends`, `Sound.drainInto_appends`: What is
  appended, and how much.
* `Sound.readInto_gives`, `Sound.readBytes_gives`, `Sound.readSlice_gives`,
  `Sound.tryReadWord_gives`, `skip_gives`: What is given out.
* `content_ofRegions`: A view of some regions shows what they span.
* `Sound.becomes`: What others do elsewhere does not show in a buffer.
* `Kept.gone_le`: No more is gone than was written.
* `Kept.elsewhere`, `Kept.alloc`: Work on other buffers keeps the record right.
* `Kept.grow`, `Kept.put`, `Kept.get`, `Kept.discard`, `Kept.markReader`: So does each kind
  of call.
* `Kept.perform`, `Kept.step`: Each step keeps the record right.
* `moves_put`, `Kept.moves_get`, `moves_nothing`: What each kind of call adds to it.
* `Kept.moves`: What a call that succeeds adds to it.
* `Kept.reset`: The reader can go back to the mark.
* `start_kept`: The record of a new buffer is right.
* `stream_conserved`: What comes out is what went in, and a reset goes back to the mark.
* `steps_of_foldlM`: Calls that succeed one after the other are a run.
* `stream_conserved_sampleCalls`: A run with a mark and a compaction.
-/

namespace Conduit

open Region

/-- A call on a buffer that serves as a stream. -/
inductive StreamCall where
  | write (src : Bytes)
  | writeWord {w : Nat} (v : Word w)
  /-- The readable bytes of another buffer are appended. -/
  | drain (src : Buffer)
  | writeZero (length : Nat)
  | readInto (length : Nat)
  | readBytes (length : Nat)
  | readSlice (length : Nat)
  | skip (length : Nat)
  | readWord (w : Nat)
  | discard
  | ensureWritable (wanted : Nat) (force : Bool)
  | ensureWritableBytes (wanted : Nat)
  | mark

/-- How many bytes a call takes out that succeeds. -/
def StreamCall.taken : StreamCall → Nat
  | readInto length | readBytes length | readSlice length | skip length => length
  | readWord w => w
  | _ => 0

/-- A buffer that serves as a stream, and what has gone through it. -/
structure Flow where
  buffer : Buffer
  memory : Memory
  /-- What has been written, in order. -/
  written : Bytes := []
  /-- What has been read or skipped, in order. -/
  consumed : Bytes := []
  /-- How much had been read at the last mark. -/
  marked : Nat := 0
  /-- How much had been read when it was last discarded. -/
  gone : Nat := 0

namespace Flow

/-- A new growable buffer. -/
def start (m : Memory) (order : ByteOrder) (capacity : Nat) : Flow :=
  let (buffer, memory) := Buffer.growable m order capacity
  { buffer, memory }

/-- After a call has said how many of some bytes it has written. -/
def put (s : Flow) (bytes : Bytes) (result : Nat × Buffer × Memory) : Flow :=
  { s with
    buffer := result.2.1
    memory := result.2.2
    written := s.written ++ bytes.take result.1 }

/-- After a call has given some bytes out. -/
def get (s : Flow) (bytes : Bytes) (buffer : Buffer) (memory : Memory) : Flow :=
  { s with buffer, memory, consumed := s.consumed ++ bytes }

/-- One call, with the record of it. -/
def perform (s : Flow) : StreamCall → Except Error Flow
  | .write src => .ok (s.put src (s.buffer.write s.memory src))
  | .writeWord v =>
    .ok (s.put (Word.encode s.buffer.order v) (s.buffer.writeWord s.memory v))
  | .drain src =>
    let (n, _, buffer, memory) := src.drainInto s.buffer s.memory
    .ok (s.put (src.content s.memory) (n, buffer, memory))
  | .writeZero length =>
    .ok (s.put (List.replicate length 0) (s.buffer.writeZero s.memory length))
  | .readInto length => do
    let (bytes, buffer) ← s.buffer.readInto s.memory length
    return s.get bytes buffer s.memory
  | .readBytes length => do
    let (taken, buffer, memory) ← s.buffer.readBytes s.memory length
    return s.get (taken.content memory) buffer memory
  | .readSlice length => do
    let (view, buffer) ← s.buffer.readSlice length
    return s.get (view.content s.memory) buffer s.memory
  | .skip length => do
    let buffer ← s.buffer.skip length
    return s.get ((s.buffer.content s.memory).take length) buffer s.memory
  | .readWord w => do
    let (v, buffer) ← s.buffer.tryReadWord s.memory w
    return s.get (Word.encode s.buffer.order v) buffer s.memory
  | .discard =>
    let (buffer, memory) := s.buffer.discardReadBytes s.memory
    .ok { s with buffer, memory, gone := s.consumed.length }
  | .ensureWritable wanted force =>
    let (_, buffer, memory) := s.buffer.ensureWritable s.memory wanted force
    .ok { s with buffer, memory }
  | .ensureWritableBytes wanted => do
    let (buffer, memory) ← s.buffer.ensureWritableBytes s.memory wanted
    return { s with buffer, memory }
  | .mark => .ok { s with buffer := s.buffer.markReader, marked := s.consumed.length }

/-- The bytes that a call has to write. -/
def offered (s : Flow) : StreamCall → Bytes
  | .write src => src
  | .writeWord v => Word.encode s.buffer.order v
  | .drain src => src.content s.memory
  | .writeZero length => List.replicate length 0
  | _ => []

/-- How many of them are written: of zeros as many as fit under the ceiling, and of all else
    either all or none. -/
def accepted (s : Flow) (c : StreamCall) : Nat :=
  let length := (s.offered c).length
  match c with
  | .writeZero _ => min length s.buffer.maxWritableBytes
  | _ => if length ≤ s.buffer.maxWritableBytes then length else 0

/-- What a call that succeeds adds to the record. -/
structure Moves (s : Flow) (c : StreamCall) (s' : Flow) : Prop where
  /-- It takes out as many bytes as it was asked for, and they could all be read. -/
  consumed : s'.consumed = s.consumed ++ (s.buffer.content s.memory).take c.taken
  enough : c.taken ≤ (s.buffer.content s.memory).length
  /-- It writes all bytes that it was given, or as many as fit. -/
  written : s'.written = s.written ++ (s.offered c).take (s.accepted c)
  /-- A buffer that is drained has then been read as far as its bytes were written. -/
  drained : ∀ src, c = .drain src →
    (src.drainInto s.buffer s.memory).2.1 = { src with reader := src.reader + s.accepted c }

/-- A call that succeeds, or work that leaves the bytes of the buffer alone. -/
inductive Step : Flow → Flow → Prop
  | call {s s' : Flow} (c : StreamCall) : s.perform c = .ok s' → Step s s'
  | elsewhere {s : Flow} {own : List Region} {memory : Memory} :
      s.memory.Becomes own memory → (∀ a ∈ addresses own, a ∉ addresses s.buffer.regions) →
        Step s { s with memory }

/-- The record is right: it says what the buffer holds, and where the mark is. -/
structure Kept (s : Flow) : Prop where
  sound : s.buffer.Sound s.memory
  conserved : s.consumed ++ s.buffer.content s.memory = s.written
  standing : s.buffer.standing s.memory = s.written.drop s.gone
  reader : s.gone + s.buffer.reader = s.consumed.length
  mark : s.gone + s.buffer.readerMark = max s.marked s.gone
  mark_le : s.buffer.readerMark ≤ s.buffer.reader

end Flow

/-! ### Appending -/

namespace Buffer

variable {b b' : Buffer} {m m' : Memory} {src : Bytes}

/-- A call has appended the first `count` bytes of `src`, and says how many. -/
structure Appends (b : Buffer) (m : Memory) (src : Bytes) (count : Nat)
    (result : Nat × Buffer × Memory) : Prop where
  count : result.1 = count
  sound : result.2.1.Sound result.2.2
  standing : result.2.1.standing result.2.2 = b.standing m ++ src.take result.1
  reader : result.2.1.reader = b.reader
  readerMark : result.2.1.readerMark = b.readerMark

theorem Sound.write_appends (h : b.Sound m) (src : Bytes) :
    b.Appends m src (if src.length ≤ b.maxWritableBytes then src.length else 0)
      (b.write m src) := by
  by_cases hroom : src.length ≤ b.maxWritableBytes
  · rcases h.write_standing hroom with ⟨rs, m', hwrite, hsound, hstanding⟩
    rw [hwrite, if_pos hroom]
    exact ⟨rfl, hsound, by rw [hstanding, List.take_length], rfl, rfl⟩
  · rw [h.write_refused (Nat.lt_of_not_le hroom), if_neg hroom]
    exact ⟨rfl, h, (List.append_nil _).symm, rfl, rfl⟩

/-- A buffer that is forced to grow has room for what was wanted, or else all room that there
    is under its ceiling. -/
theorem Sound.room_of_forced (h : b.Sound m) {wanted : Nat} {v : Writability} {rs : List Region}
    (hensure : b.ensureWritable m wanted true = (v, { b with regions := rs }, m')) :
    min wanted (writableBytes { b with regions := rs }) = min wanted b.maxWritableBytes := by
  have hrooms := h.backed.rooms
  by_cases hroom : wanted ≤ b.maxWritableBytes
  · rcases hrooms.granted wanted hroom with ⟨c, m'', hprovided, -, hask⟩
    have hsame : c = { b with regions := rs } :=
      congrArg (·.2.1) ((hask true).symm.trans hensure)
    rw [← hsame, Nat.min_eq_left hprovided.room, Nat.min_eq_left hroom]
  · -- Either it is as large as it may be, or it becomes so.
    have hmax : capacity { b with regions := rs } = b.maxCapacity := by
      rcases (hrooms.refused wanted (Nat.lt_of_not_le hroom)).2 true with ⟨v', c, m'', hask, hend⟩
      have hsame : c = { b with regions := rs } := congrArg (·.2.1) (hask.symm.trans hensure)
      rw [← hsame]
      rcases hend with ⟨-, hold, -, hfull⟩ | ⟨-, -, -, hfull⟩
      · rw [hold]
        exact hfull rfl
      · exact hfull
    rw [writableBytes, hmax, maxWritableBytes]

/-- Zeros are appended as far as there is room once the buffer has grown as far as it may. -/
theorem Sound.writeZero_appends (h : b.Sound m) (length : Nat) :
    b.Appends m (List.replicate length 0) (min length b.maxWritableBytes)
      (b.writeZero m length) := by
  rcases h.ensureWritable_standing length true with ⟨v, rs, m', hensure, hsound, hstanding⟩
  -- A forced request finds all the room that there may ever be, or what is asked for.
  have hcount := h.room_of_forced hensure
  obtain ⟨c, hc⟩ : ∃ c : Buffer, c = { b with regions := rs } := ⟨_, rfl⟩
  rw [← hc] at hsound hstanding hensure hcount
  have hwriter := hsound.valid.writer_le_capacity
  have hroom : c.writer + (List.replicate (min length c.writableBytes) (0 : UInt8)).length ≤
      c.capacity := by
    rw [List.length_replicate, writableBytes]
    omega
  rcases hsound.append hroom with ⟨hlater, hzeros⟩
  rw [List.length_replicate] at hlater hzeros
  rw [writeZero, hensure]
  refine ⟨hcount, hlater, ?_, by rw [hc], by rw [hc]⟩
  rw [List.take_replicate, Nat.min_eq_left (Nat.min_le_left _ _), ← hstanding]
  exact hzeros

theorem Sound.drainInto_appends (h : b.Sound m) (src : Buffer) :
    b.Appends m (src.content m)
      (if (src.content m).length ≤ b.maxWritableBytes then (src.content m).length else 0)
      ((src.drainInto b m).1, (src.drainInto b m).2.2.1, (src.drainInto b m).2.2.2) :=
  h.write_appends (src.content m)

/-! ### Giving out -/

/-- A call has given out the next bytes, so many of them, and moved the reader over them. -/
structure Gives (b : Buffer) (m : Memory) (length : Nat) (bytes : Bytes) (b' : Buffer) : Prop where
  enough : length ≤ b.readableBytes
  bytes : bytes = (b.content m).take length
  buffer : b' = { b with reader := b.reader + length }

theorem skip_gives (b : Buffer) (m : Memory) (length : Nat) :
    Yields (fun b' => b.Gives m length ((b.content m).take length) b') (b.skip length) :=
  (b.checkReadable_yields length).bind fun _ hlength => Yields.ok ⟨hlength, rfl, rfl⟩

theorem Sound.readInto_gives (h : b.Sound m) (length : Nat) :
    Yields (fun r : Bytes × Buffer => b.Gives m length r.1 r.2) (b.readInto m length) :=
  (b.checkReadable_yields length).bind fun _ hlength =>
    Yields.ok ⟨hlength, peek_reader h.fits hlength, rfl⟩

/-- The bytes of a word that is read are the next ones. -/
theorem Sound.tryReadWord_gives (h : b.Sound m) (w : Nat) :
    Yields (fun r : Word w × Buffer => b.Gives m w (Word.encode b.order r.1) r.2)
      (b.tryReadWord m w) := by
  refine (b.checkReadable_yields w).bind fun _ hw => ?_
  have hnext := peek_reader h.fits hw
  have hlength : (b.peek m b.reader w).length = w := by
    rw [hnext, List.length_take, h.length_content, Nat.min_eq_left hw]
  have hword : Yields (fun v => v = Word.decode w b.order (b.peek m b.reader w))
      (b.getWord m w b.reader) :=
    Yields.bind (P := fun bytes => bytes = b.peek m b.reader w)
      ((b.checkWindow_yields b.reader w).bind fun _ _ => Yields.ok rfl)
      fun bytes hbytes => Yields.ok (by rw [hbytes])
  refine hword.bind fun v hv => Yields.ok ⟨hw, ?_, rfl⟩
  have hencode := Word.encode_decode b.order (b.peek m b.reader w)
  rw [hlength] at hencode
  rw [hv, hencode, hnext]

/-- A view of some regions shows what they span. -/
theorem content_ofRegions (m : Memory) (order : ByteOrder) (rs : List Region) :
    (ofRegions order rs).content m = m.loadAll rs := by
  have hspan : span (rs.filter fun r => 0 < r.length) = (addresses rs).length := by
    rw [← length_addresses, addresses_filter]
  rw [content, peek, Memory.load_eq_filterMap, Memory.loadAll_eq_filterMap, ofRegions,
    addresses_filter, readableBytes, hspan, Nat.sub_zero, List.drop_zero, List.take_length]

theorem Sound.readSlice_gives (h : b.Sound m) (length : Nat) :
    Yields (fun r : Buffer × Buffer => b.Gives m length (r.1.content m) r.2)
      (b.readSlice length) := by
  refine (b.checkReadable_yields length).bind fun _ hlength => ?_
  have hview : Yields (fun view => view.content m = (b.content m).take length)
      (b.slice b.reader length) :=
    (b.checkWindow_yields b.reader length).bind fun _ _ => Yields.ok <|
      (content_ofRegions m b.order _).trans (peek_reader h.fits hlength)
  exact hview.bind fun view hcontent => Yields.ok ⟨hlength, hcontent, rfl⟩

/-- A copy of the next bytes is in a cell of its own, and nothing else has been done. -/
theorem Sound.readBytes_gives (h : b.Sound m) (length : Nat) :
    Yields (fun r : Buffer × Buffer × Memory => b.Gives m length (r.1.content r.2.2) r.2.1 ∧
        ∃ bytes, r.2.2 = (m.alloc bytes).2)
      (b.readBytes m length) := by
  intro r hr
  have hlength : length ≤ b.readableBytes :=
    (h.backed.readBytes length r hr).2.2
  rcases readBytes_eq h.valid h.fits hlength with ⟨line, bytes, hread, hline, -⟩
  rw [hread] at hr
  injection hr with hr
  subst hr
  exact ⟨⟨hlength, hline, rfl⟩, bytes, rfl⟩

end Buffer

/-! ### Elsewhere -/

/-- What others do elsewhere does not show in a buffer. -/
theorem Buffer.Sound.becomes {own : List Region} {b : Buffer} {m m' : Memory} (h : b.Sound m)
    (hm : m.Becomes own m') (happart : ∀ a ∈ addresses own, a ∉ addresses b.regions) :
    b.Sound m' ∧ b.standing m' = b.standing m ∧ b.content m' = b.content m := by
  have hsound : b.Sound m' := ⟨h.valid, fun r hr => hm.fits (h.fits r hr), h.apart⟩
  have hstanding : b.standing m' = b.standing m := by
    rw [standing, standing, hm.loadAll_eq h.fits happart]
  exact ⟨hsound, hstanding, by rw [hsound.content_eq_drop, h.content_eq_drop, hstanding]⟩

namespace Flow.Kept

variable {s : Flow}

/-! ### Steps -/

theorem gone_le (h : s.Kept) : s.gone ≤ s.written.length := by
  have hlength := congrArg List.length h.conserved
  have hreader := h.reader
  rw [List.length_append] at hlength
  omega

/-- Work elsewhere keeps the record right. -/
theorem elsewhere (h : s.Kept) {own : List Region} {memory : Memory}
    (hm : s.memory.Becomes own memory)
    (happart : ∀ a ∈ addresses own, a ∉ addresses s.buffer.regions) :
    Kept { s with memory } := by
  rcases h.sound.becomes hm happart with ⟨hsound, hstanding, hcontent⟩
  exact ⟨hsound, by rw [hcontent]; exact h.conserved, hstanding.trans h.standing, h.reader,
    h.mark, h.mark_le⟩

/-- So does taking a new cell. -/
theorem alloc (h : s.Kept) (bytes : Array UInt8) :
    Kept { s with memory := (s.memory.alloc bytes).2 } :=
  h.elsewhere (Memory.becomes_alloc [] s.memory bytes) fun _ ha => absurd ha List.not_mem_nil

/-- Making room keeps the record right. -/
theorem grow (h : s.Kept) {rs : List Region} {memory : Memory}
    (hsound : Buffer.Sound { s.buffer with regions := rs } memory)
    (hstanding : ({ s.buffer with regions := rs } : Buffer).standing memory =
      s.buffer.standing s.memory) :
    Kept { s with buffer := { s.buffer with regions := rs }, memory } := by
  have hcontent : ({ s.buffer with regions := rs } : Buffer).content memory =
      s.buffer.content s.memory := by
    rw [hsound.content_eq_drop, hstanding, h.sound.content_eq_drop]
  exact ⟨hsound, by rw [hcontent]; exact h.conserved, hstanding.trans h.standing, h.reader,
    h.mark, h.mark_le⟩

/-- Appending keeps the record right. -/
theorem put (h : s.Kept) {bytes : Bytes} {count : Nat} {result : Nat × Buffer × Memory}
    (happends : s.buffer.Appends s.memory bytes count result) : (s.put bytes result).Kept := by
  -- Bytes are appended behind the reader, so what has been read does not change.
  have hreader : s.buffer.reader ≤ (s.buffer.standing s.memory).length :=
    h.sound.length_standing ▸ h.sound.valid.reader_le_writer
  refine ⟨happends.sound, ?_, ?_, ?_, ?_, ?_⟩
  · change s.consumed ++ result.2.1.content result.2.2 = s.written ++ bytes.take result.1
    rw [happends.sound.content_eq_drop, happends.standing, happends.reader,
      List.drop_append_of_le_length hreader, ← h.sound.content_eq_drop, ← List.append_assoc,
      h.conserved]
  · change _ = (s.written ++ bytes.take result.1).drop s.gone
    rw [List.drop_append_of_le_length h.gone_le, ← h.standing]
    exact happends.standing
  · change s.gone + result.2.1.reader = _
    rw [happends.reader]
    exact h.reader
  · change s.gone + result.2.1.readerMark = _
    rw [happends.readerMark]
    exact h.mark
  · change result.2.1.readerMark ≤ result.2.1.reader
    rw [happends.readerMark, happends.reader]
    exact h.mark_le

/-- Reading keeps the record right, however the bytes have been given out. -/
theorem get (h : s.Kept) {length : Nat} {bytes : Bytes} {buffer : Buffer}
    (hgives : s.buffer.Gives s.memory length bytes buffer) :
    (s.get bytes buffer s.memory).Kept := by
  rcases hgives with ⟨hlength, rfl, rfl⟩
  rcases h.sound.advance hlength with ⟨hsound, hcontent⟩
  refine ⟨hsound, ?_, h.standing, ?_, h.mark, Nat.le_trans h.mark_le (Nat.le_add_right _ _)⟩
  · change s.consumed ++ (s.buffer.content s.memory).take length ++
      ({ s.buffer with reader := s.buffer.reader + length } : Buffer).content s.memory = s.written
    rw [hcontent, List.append_assoc, List.take_append_drop, h.conserved]
  · change s.gone + (s.buffer.reader + length) =
      (s.consumed ++ (s.buffer.content s.memory).take length).length
    rw [List.length_append, List.length_take, h.sound.length_content, Nat.min_eq_left hlength,
      ← h.reader, Nat.add_assoc]

/-- A compaction keeps the record right. What has been read is gone then, and if the mark was
    there, it is at the oldest byte that is left. -/
theorem discard (h : s.Kept) :
    Kept { s with
      buffer := (s.buffer.discardReadBytes s.memory).1
      memory := (s.buffer.discardReadBytes s.memory).2
      gone := s.consumed.length } := by
  rcases h.sound.discardReadBytes with ⟨b', m', hdiscard, hsound, hcontent, hreader, -, -, -⟩
  -- Subtraction stops at zero: a mark that lies behind the reader is moved up to the front.
  have hmark : b'.readerMark = s.buffer.readerMark - s.buffer.reader := by
    have hfst := congrArg (·.1.readerMark) hdiscard
    rw [Buffer.discardReadBytes] at hfst
    by_cases hzero : s.buffer.reader = 0
    · rw [if_pos hzero] at hfst
      rw [← hfst, hzero, Nat.sub_zero]
    · rw [if_neg hzero] at hfst
      exact hfst.symm
  have hstanding : b'.standing m' = s.buffer.content s.memory := by
    rw [← hcontent, hsound.content_eq_drop, hreader, List.drop_zero]
  rw [hdiscard]
  refine ⟨hsound, by rw [hcontent]; exact h.conserved, ?_, ?_, ?_, ?_⟩
  · change b'.standing m' = s.written.drop s.consumed.length
    rw [hstanding, ← h.conserved, List.drop_left' rfl]
  · change s.consumed.length + b'.reader = _
    rw [hreader, Nat.add_zero]
  · have hlater := h.mark_le
    have hposition := h.reader
    have hmarked := h.mark
    change s.consumed.length + b'.readerMark = max s.marked s.consumed.length
    rw [hmark]
    omega
  · change b'.readerMark ≤ b'.reader
    have hlater := h.mark_le
    rw [hmark]
    omega

/-- Marking the reader keeps the record right. -/
theorem markReader (h : s.Kept) :
    Kept { s with buffer := s.buffer.markReader, marked := s.consumed.length } := by
  have hposition := h.reader
  refine ⟨⟨⟨h.sound.valid.reader_le_writer, h.sound.valid.writer_le_capacity,
    h.sound.valid.capacity_le_max⟩, h.sound.fits, h.sound.apart⟩, h.conserved, h.standing,
    h.reader, ?_, Nat.le_refl _⟩
  change s.gone + s.buffer.reader = max s.consumed.length s.gone
  omega

/-- A call that succeeds keeps the record right. -/
theorem perform {s' : Flow} (h : s.Kept) (c : StreamCall) (hcall : s.perform c = .ok s') :
    s'.Kept := by
  cases c with
  -- The calls come in three kinds, and each kind has one lemma: they append, they give
  -- out, or they only make room.
  | write src =>
      injection hcall with hcall
      exact hcall ▸ h.put (h.sound.write_appends src)
  | writeWord v =>
      injection hcall with hcall
      exact hcall ▸ h.put (h.sound.write_appends _)
  | drain src =>
      injection hcall with hcall
      exact hcall ▸ h.put (h.sound.drainInto_appends src)
  | writeZero length =>
      injection hcall with hcall
      exact hcall ▸ h.put (h.sound.writeZero_appends length)
  | readInto length =>
      rcases ok_of_bind hcall with ⟨⟨bytes, buffer⟩, hread, hdone⟩
      injection hdone with hdone
      exact hdone ▸ h.get (h.sound.readInto_gives length _ hread)
  | readBytes length =>
      rcases ok_of_bind hcall with ⟨⟨taken, buffer, memory⟩, hread, hdone⟩
      rcases h.sound.readBytes_gives length _ hread with ⟨hgives, bytes, hmemory⟩
      injection hdone with hdone
      change memory = (s.memory.alloc bytes).2 at hmemory
      rw [← hdone, hmemory]
      exact (h.get (hmemory ▸ hgives)).alloc bytes
  | readSlice length =>
      rcases ok_of_bind hcall with ⟨⟨view, buffer⟩, hread, hdone⟩
      injection hdone with hdone
      exact hdone ▸ h.get (h.sound.readSlice_gives length _ hread)
  | skip length =>
      rcases ok_of_bind hcall with ⟨buffer, hread, hdone⟩
      injection hdone with hdone
      exact hdone ▸ h.get (s.buffer.skip_gives s.memory length _ hread)
  | readWord w =>
      rcases ok_of_bind hcall with ⟨⟨v, buffer⟩, hread, hdone⟩
      injection hdone with hdone
      exact hdone ▸ h.get (h.sound.tryReadWord_gives w _ hread)
  | discard =>
      injection hcall with hcall
      exact hcall ▸ h.discard
  | ensureWritable wanted force =>
      rcases h.sound.ensureWritable_standing wanted force with
        ⟨v, rs, m', hensure, hsound, hstanding⟩
      rw [Flow.perform, hensure] at hcall
      injection hcall with hcall
      exact hcall ▸ h.grow hsound hstanding
  | ensureWritableBytes wanted =>
      rcases ok_of_bind hcall with ⟨⟨buffer, memory⟩, hensure, hdone⟩
      injection hdone with hdone
      rcases h.sound.ensureWritableBytes_standing hensure with ⟨rs, rfl, hsound, hstanding⟩
      exact hdone ▸ h.grow hsound hstanding
  | mark =>
      injection hcall with hcall
      exact hcall ▸ h.markReader

/-! ### What a call adds -/

/-- What is added by a call that appends. -/
theorem moves_put (s : Flow) {c : StreamCall} {bytes : Bytes} {result : Nat × Buffer × Memory}
    (happends : s.buffer.Appends s.memory bytes (s.accepted c) result)
    (htaken : c.taken = 0) (hoffered : s.offered c = bytes)
    (hdrained : ∀ src, c = .drain src →
      (src.drainInto s.buffer s.memory).2.1 = { src with reader := src.reader + s.accepted c }) :
    s.Moves c (s.put bytes result) where
  consumed := by
    rw [htaken, List.take_zero, List.append_nil]
    rfl
  enough := htaken ▸ Nat.zero_le _
  written := by
    rw [hoffered, ← happends.count]
    rfl
  drained := hdrained

/-- What is added by a call that gives out. -/
theorem moves_get (h : s.Kept) {c : StreamCall} {bytes : Bytes} {buffer : Buffer}
    {memory : Memory} (hgives : s.buffer.Gives s.memory c.taken bytes buffer)
    (hoffered : s.offered c = []) (hdrain : ∀ src, c ≠ .drain src) :
    s.Moves c (s.get bytes buffer memory) where
  consumed := congrArg (s.consumed ++ ·) hgives.bytes
  enough := h.sound.length_content ▸ hgives.enough
  written := by
    rw [hoffered, List.take_nil, List.append_nil]
    rfl
  drained := fun src hc => absurd hc (hdrain src)

/-- A call that only makes room or sets a mark adds nothing. -/
theorem moves_nothing {s' : Flow} {c : StreamCall} (hconsumed : s'.consumed = s.consumed)
    (hwritten : s'.written = s.written) (htaken : c.taken = 0) (hoffered : s.offered c = [])
    (hdrain : ∀ src, c ≠ .drain src) : s.Moves c s' where
  consumed := by rw [hconsumed, htaken, List.take_zero, List.append_nil]
  enough := htaken ▸ Nat.zero_le _
  written := by rw [hwritten, hoffered, List.take_nil, List.append_nil]
  drained := fun src hc => absurd hc (hdrain src)

/-- What a call that succeeds adds to the record. -/
theorem moves {s' : Flow} (h : s.Kept) (c : StreamCall) (hcall : s.perform c = .ok s') :
    s.Moves c s' := by
  cases c with
  | write src =>
      injection hcall with hcall
      exact hcall ▸ moves_put s (h.sound.write_appends src) rfl rfl nofun
  | writeWord v =>
      injection hcall with hcall
      exact hcall ▸ moves_put s (h.sound.write_appends _) rfl rfl nofun
  | drain src =>
      injection hcall with hcall
      have happends := h.sound.drainInto_appends src
      -- The source of a drain is moved on by as many bytes as were appended.
      refine hcall ▸ moves_put s happends rfl rfl fun src' hsrc => ?_
      injection hsrc with hsrc
      subst hsrc
      exact congrArg (fun n => { src with reader := src.reader + n }) happends.count
  | writeZero length =>
      injection hcall with hcall
      refine hcall ▸ moves_put s (c := .writeZero length) ?_ rfl rfl nofun
      rw [accepted, offered, List.length_replicate]
      exact h.sound.writeZero_appends length
  | readInto length =>
      rcases ok_of_bind hcall with ⟨⟨bytes, buffer⟩, hread, hdone⟩
      injection hdone with hdone
      exact hdone ▸ h.moves_get (c := .readInto length) (h.sound.readInto_gives length _ hread)
        rfl nofun
  | readBytes length =>
      rcases ok_of_bind hcall with ⟨⟨taken, buffer, memory⟩, hread, hdone⟩
      injection hdone with hdone
      exact hdone ▸ h.moves_get (c := .readBytes length)
        (h.sound.readBytes_gives length _ hread).1 rfl nofun
  | readSlice length =>
      rcases ok_of_bind hcall with ⟨⟨view, buffer⟩, hread, hdone⟩
      injection hdone with hdone
      exact hdone ▸ h.moves_get (c := .readSlice length) (h.sound.readSlice_gives length _ hread)
        rfl nofun
  | skip length =>
      rcases ok_of_bind hcall with ⟨buffer, hread, hdone⟩
      injection hdone with hdone
      exact hdone ▸ h.moves_get (c := .skip length) (s.buffer.skip_gives s.memory length _ hread)
        rfl nofun
  | readWord w =>
      rcases ok_of_bind hcall with ⟨⟨v, buffer⟩, hread, hdone⟩
      injection hdone with hdone
      exact hdone ▸ h.moves_get (c := .readWord w) (h.sound.tryReadWord_gives w _ hread) rfl nofun
  | ensureWritableBytes wanted =>
      rcases ok_of_bind hcall with ⟨⟨buffer, memory⟩, -, hdone⟩
      injection hdone with hdone
      exact hdone ▸ moves_nothing rfl rfl rfl rfl nofun
  | discard | ensureWritable wanted force | mark =>
      injection hcall with hcall
      exact hcall ▸ moves_nothing rfl rfl rfl rfl nofun

theorem step {s' : Flow} (h : s.Kept) (hstep : Step s s') : s'.Kept := by
  cases hstep with
  | call c hcall => exact h.perform c hcall
  | elsewhere hm happart => exact h.elsewhere hm happart

/-- The reader can go back to the mark, and finds there what was written from there on. -/
theorem reset (h : s.Kept) :
    ∃ b', s.buffer.resetReader = .ok b' ∧
      b'.content s.memory = s.written.drop (max s.marked s.gone) := by
  have hmark : s.buffer.readerMark ≤ s.buffer.writer :=
    Nat.le_trans h.mark_le h.sound.valid.reader_le_writer
  -- The buffer with its reader at the mark is sound too, and shows what stands from there on.
  have hsound : Buffer.Sound { s.buffer with reader := s.buffer.readerMark } s.memory :=
    ⟨⟨hmark, h.sound.valid.writer_le_capacity, h.sound.valid.capacity_le_max⟩, h.sound.fits,
      h.sound.apart⟩
  refine ⟨_, if_neg (Nat.not_lt.mpr hmark), hsound.content_eq_drop.trans ?_⟩
  change (s.buffer.standing s.memory).drop s.buffer.readerMark = _
  rw [h.standing, List.drop_drop, h.mark]

end Flow.Kept

namespace Flow

theorem start_kept (m : Memory) (order : ByteOrder) (capacity : Nat) :
    (start m order capacity).Kept := by
  rcases Buffer.Sound.growable m order capacity with ⟨hsound, hcontent⟩
  exact ⟨hsound, hcontent, List.take_zero, rfl, rfl, Nat.le_refl _⟩

/-- After any run of calls on a new buffer, with any work elsewhere in between: what has been
    read and what can be read are what has been written. And the reader can be reset. Then what
    can be read is what was written from the last mark on, or from the oldest byte that has not
    been discarded, whichever comes later. What the next call adds to either record, if it
    succeeds, are as many bytes as it was asked for, as far as there is room. -/
theorem stream_conserved (m : Memory) (order : ByteOrder) (capacity : Nat) {s : Flow}
    (h : Relation.ReflTransGen Step (start m order capacity) s) :
    s.consumed ++ s.buffer.content s.memory = s.written ∧
      (∃ b', s.buffer.resetReader = .ok b' ∧
        b'.content s.memory = s.written.drop (max s.marked s.gone)) ∧
      ∀ c s', s.perform c = .ok s' → s.Moves c s' := by
  have hkept : s.Kept := by
    induction h with
    | refl => exact start_kept m order capacity
    | tail _ hstep ih => exact ih.step hstep
  exact ⟨hkept.conserved, hkept.reset, fun c _ => hkept.moves c⟩

theorem steps_of_foldlM {calls : List StreamCall} {s s' : Flow}
    (h : calls.foldlM perform s = .ok s') : Relation.ReflTransGen Step s s' := by
  induction calls generalizing s with
  | nil =>
      injection h with h
      exact h ▸ .refl
  | cons c calls ih =>
      rw [List.foldlM_cons] at h
      rcases ok_of_bind h with ⟨next, hcall, hrest⟩
      exact .head (.call c hcall) (ih hrest)

/-- Three bytes are written, one is read before the mark and one after it, both are discarded,
    and two more are written. -/
def sampleCalls : List StreamCall :=
  [.write [0x61, 0x62, 0x63], .readWord 1, .mark, .readInto 1, .discard,
    .writeWord (w := 2) 0x6465, .skip 1]

theorem stream_conserved_sampleCalls :
    ∃ s b', sampleCalls.foldlM perform (start {} .big 4) = .ok s ∧
      s.consumed = [0x61, 0x62, 0x63] ∧ s.written = [0x61, 0x62, 0x63, 0x64, 0x65] ∧
      s.consumed ++ s.buffer.content s.memory = s.written ∧
      s.buffer.resetReader = .ok b' ∧ b'.content s.memory = [0x63, 0x64, 0x65] := by
  obtain ⟨s, hrun, hconsumed, hwritten, hmarked, hgone⟩ : ∃ s,
      sampleCalls.foldlM perform (start {} .big 4) = .ok s ∧ s.consumed = [0x61, 0x62, 0x63] ∧
        s.written = [0x61, 0x62, 0x63, 0x64, 0x65] ∧ s.marked = 1 ∧ s.gone = 2 :=
    ⟨_, rfl, by decide +kernel, by decide +kernel, rfl, rfl⟩
  -- The mark was at the second byte, and the compaction has moved it up to the third.
  rcases stream_conserved {} .big 4 (steps_of_foldlM hrun) with
    ⟨hconserved, ⟨b', hreset, hcontent⟩, -⟩
  rw [hmarked, hgone, hwritten] at hcontent
  exact ⟨s, b', hrun, hconsumed, hwritten, hconserved, hreset, hcontent⟩

end Flow

end Conduit
