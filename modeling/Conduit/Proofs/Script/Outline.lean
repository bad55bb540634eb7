import Conduit.Proofs.Buffer.Call
import Conduit.Proofs.Buffer.Medium
import Conduit.Proofs.Result
import Conduit.Script.Registers

/-!
# Steps in Outline

What a step comes to, without the way there: the buffer that is made, or what is made
of the one that is worked on, in one expression of the operations on buffers, or an
error, and then nothing else. A program is reasoned about in this form. That a step
comes to it is a theorem about the buffers that the step reads: they rest in memory.

For this to be so the machine must not be touched where the outline fails, and there is
a store in every call, also in one that fails: the buffer is put back as the call has
left it. If that is how it was, putting it back changes nothing, not even the order in
which buffers stand.

## Main definitions

* `BufferStep.reads`: The buffers that a step reads.
* `Registers.make`, `Registers.work`, `Registers.outline`: What a step comes to.
* `Registers.Ready`: The buffers that a step reads rest in memory.

## Theorems

* `outline_making`, `outline_working`: The outline of either kind of step.
* `lookup_replace`, `get?_put`, `memory_put`, `put_self`: What is stored, and storing what is
  there.
* `find_eq`, `get?_of_find`, `fetch_eq`, `fetch_ok`, `fetch_bind`, `fetch_onto`,
  `each_fetch`, `answer_onto`: Buffers that are looked up.
* `access_answer`, `access_ok`, `access_settle`, `access_made`: Work on memory.
* `run_call`, `call_settle`, `call_ok`, `tells_settle`, `tells_ok`, `asks_answer`,
  `asks_ok`: Calls on a buffer, and their answers.
* `renders_medium`, `Renders.read`, `tryRead_eq`, `useFormat_eq`, `useNumber_eq`: Numbers of
  three bytes are words like any other.
* `build_eq`, `present_eq`, `perform_eq`: Making a buffer and working on one, in outline.
* `exec_eq`, `step_eq`: A step, in outline.
-/

namespace Conduit

open Procedure

/-- The buffers that a new one is made of. -/
def Making.sources : Making → List String
  | .wrapOf source | .copyOf source | .duplicate source | .withOrder source _ |
    .readableSlice source | .slice source _ _ | .copy source _ _ => [source]
  | .wrapAll sources | .copyAll sources => sources
  | _ => []

/-- The other buffers that have a part in what is done with one. -/
def Working.sources : Working → List String
  | .drainFrom source | .compare source => [source]
  | _ => []

/-- The buffers whose bytes have a part in a step, and in what it shows. -/
def BufferStep.reads (s : BufferStep) : List String :=
  s.shown :: match s.act with
    | .inl making => making.sources
    | .inr working => s.register :: working.sources

namespace Registers

/-! ### The outline of a step -/

/-- The buffer with a name, or the error that there is none. -/
def find (r : Registers) (name : String) : Except Error Buffer :=
  match r.get? name with
  | some b => .ok b
  | none => .error (.noSuchElement (.named name))

/-- Makes a buffer. -/
def make (r : Registers) : Making → Except Error (Buffer × Memory)
  | .growable order capacity => .ok (Buffer.growable r.memory order capacity)
  | .fixed order capacity => .ok (Buffer.fixed r.memory order capacity)
  | .empty => .ok (Buffer.empty, r.memory)
  | .wrap order bytes => .ok (Buffer.wrap r.memory order bytes)
  | .copied order bytes => .ok (Buffer.copied r.memory order bytes)
  | .wrapParts order parts => .ok (Buffer.wrapParts r.memory order parts)
  | .copyParts order parts => Buffer.copyParts r.memory order parts
  | .wrapOf source => do return ((← r.find source).readableSlice, r.memory)
  | .copyOf source => do return (← r.find source).copyOf r.memory
  | .wrapAll sources => do return (← Buffer.wrapAll (← sources.mapM r.find), r.memory)
  | .copyAll sources => do Buffer.copyAll r.memory (← sources.mapM r.find)
  | .text order text => .ok (Buffer.copiedText r.memory order text)
  | .factory f order capacity =>
    .ok (match order with
      | none => f.buffer r.memory capacity
      | some order => f.bufferIn r.memory order capacity)
  | .factoryOf f bytes => .ok (f.bufferOf r.memory bytes)
  | .duplicate source => do return (← r.find source, r.memory)
  | .withOrder source order => do return ((← r.find source).withOrder order, r.memory)
  | .readableSlice source => do return ((← r.find source).readableSlice, r.memory)
  | .slice source index length => do
    return (← (← r.find source).slice index length, r.memory)
  | .copy source index length => do (← r.find source).copy r.memory index length

/-- Uses a number in a buffer: the answer, the buffer afterwards, and memory. -/
def useWord (b : Buffer) (m : Memory) (numeral : Numeral) :
    WordUse → Except Error (BufferReply × Buffer × Memory)
  | .get index => do return (showWord numeral (← b.getWord m numeral.width index), b, m)
  | .set index value => do return (.done, b, ← b.setWord m index (bitsOf numeral value))
  | .read =>
    let (v, b) := b.readWord m numeral.width
    .ok (showWord numeral v, b, m)
  | .tryRead => do
    let (v, b) ← b.tryReadWord m numeral.width
    return (showWord numeral v, b, m)
  | .write value =>
    let (n, b, m) := b.writeWord m (bitsOf numeral value)
    .ok (.count n, b, m)
  | .writeAhead value => do
    let (b, m) ← b.writeWordAhead m (bitsOf numeral value)
    return (.done, b, m)

/-- Takes a buffer out of another one, and stores it if a name is given. -/
def showTaken (r : Registers) (name : String) (taken rest : Buffer) (m : Memory)
    (keep : Option String) : BufferReply × Registers :=
  let r := { r with memory := m }.put name rest
  let reply := .excerpt (Excerpt.ofBytes (taken.content m))
  match keep with
  | none => (reply, r)
  | some target => (reply, r.put target taken)

/-- Stores a buffer and the memory after an operation. -/
def after (r : Registers) (name : String) (reply : BufferReply) (b : Buffer) (m : Memory) :
    BufferReply × Registers :=
  (reply, { r with memory := m }.put name b)

/-- Does something with the buffer `b`, stored under `name`. -/
def work (r : Registers) (name : String) (b : Buffer) :
    Working → Except Error (BufferReply × Registers)
  | .readBytes length keep => do
    let (taken, rest, m) ← b.readBytes r.memory length
    return r.showTaken name taken rest m keep
  | .readSlice length keep => do
    let (taken, rest) ← b.readSlice length
    return r.showTaken name taken rest r.memory keep
  | .decompose index length keep => do return r.showParts (← b.decompose index length) keep
  | .components keep => .ok (r.showParts b.components keep)
  | .drainFrom source => do
    let src ← r.find source
    let (n, src, b, m) := src.drainInto b r.memory
    let r := ({ r with memory := m }.put name b).put source src
    return (.drained n (src.snapshot m), r)
  | .compare other => do
    let o ← r.find other
    let m := r.memory
    return (.comparison
      { order := b.compareTo o m
        reversed := o.compareTo b m
        equal := b.equals o m
        hashes := (b.hashCode m, o.hashCode m) }, r)
  | .word numeral use => do
    let (reply, b, m) ← useWord b r.memory numeral use
    return r.after name reply b m
  | .setReader index => do return r.after name .done (← b.setReader index) r.memory
  | .setWriter index => do return r.after name .done (← b.setWriter index) r.memory
  | .setCursors reader writer => do
    return r.after name .done (← b.setCursors reader writer) r.memory
  | .clear => .ok (r.after name .done b.clear r.memory)
  | .markReader => .ok (r.after name .done b.markReader r.memory)
  | .markWriter => .ok (r.after name .done b.markWriter r.memory)
  | .resetReader => do return r.after name .done (← b.resetReader) r.memory
  | .resetWriter => do return r.after name .done (← b.resetWriter) r.memory
  | .discardReadBytes =>
    let (b, m) := b.discardReadBytes r.memory
    .ok (r.after name .done b m)
  | .ensureWritableBytes length => do
    let (b, m) ← b.ensureWritableBytes r.memory length
    return r.after name .done b m
  | .ensureWritable length force =>
    let (w, b, m) := b.ensureWritable r.memory length force
    .ok (r.after name (.writability w) b m)
  | .grownCapacity target => .ok (.count (b.grownCapacity target), r)
  | .getBytes index length => do return (.bytes (← b.getBytes r.memory index length), r)
  | .setBytes index bytes => do
    return r.after name .done b (← b.setBytes r.memory index bytes)
  | .setZero index length =>
    let (n, m) := b.setZero r.memory index length
    .ok (r.after name (.count n) b m)
  | .readInto length => do
    let (bytes, b) ← b.readInto r.memory length
    return r.after name (.bytes bytes) b r.memory
  | .skip length => do return r.after name .done (← b.skip length) r.memory
  | .write bytes =>
    let (n, b, m) := b.write r.memory bytes
    .ok (r.after name (.count n) b m)
  | .writeZero length =>
    let (n, b, m) := b.writeZero r.memory length
    .ok (r.after name (.count n) b m)
  | .writeZeroAhead length =>
    let (n, b, m) := b.writeZeroAhead r.memory length
    .ok (r.after name (.count n) b m)
  | .writeAhead bytes => do
    let (b, m) ← b.writeAhead r.memory bytes
    return r.after name .done b m
  | .indexOf start stop value => .ok (.found (b.indexOf r.memory start stop value), r)
  | .bytesBefore value => .ok (.found (b.bytesBefore r.memory value), r)
  | .indexWithin start stop low high =>
    let (hit, seen) := b.indexOfBy r.memory start stop (within low high) []
    .ok (.scanned hit seen.reverse, r)
  | .bytesBeforeWithin low high =>
    let (hit, seen) := b.bytesBeforeBy r.memory (within low high) []
    .ok (.scanned hit seen.reverse, r)
  | .indexWhere start stop answer =>
    let (hit, seen) := b.indexOfBy r.memory start stop (remembering answer) []
    .ok (.scanned hit seen.reverse, r)
  | .bytesBeforeWhere answer =>
    let (hit, seen) := b.bytesBeforeBy r.memory (remembering answer) []
    .ok (.scanned hit seen.reverse, r)
  | .toText => .ok (.text (b.toText r.memory), r)
  | .content => .ok (.bytes (b.content r.memory), r)
  | .hexDump => .ok (.text (b.hexDump r.memory), r)
  | .hexDumpOf index length => do return (.text (← b.hexDumpOf r.memory index length), r)
  | .hash => .ok (.hash (b.hashCode r.memory), r)
  | .info =>
    .ok (.room
      { readable := b.readableBytes
        writable := b.writableBytes
        maxWritable := b.maxWritableBytes
        isReadable := b.isReadable
        isWritable := b.isWritable
        hash := b.hashCode r.memory }, r)
  | .debug => .ok (.text b.debug, r)

/-- What a step comes to: its answer and the machine afterwards, or an error. -/
def outline (r : Registers) (s : BufferStep) : Except Error (BufferReply × Registers) :=
  match s.act with
  | .inl making => do
    let (b, m) ← r.make making
    return r.after s.register .done b m
  | .inr working => do r.work s.register (← r.find s.register) working

theorem outline_making (r : Registers) (making : Making) (register shown : String) :
    r.outline ⟨register, shown, .inl making⟩ =
      r.make making >>= fun made => pure (r.after register .done made.1 made.2) := rfl

theorem outline_working (r : Registers) (working : Working) (register shown : String) :
    r.outline ⟨register, shown, .inr working⟩ =
      r.find register >>= fun b => r.work register b working := rfl

/-- The buffers that a step reads rest in memory. -/
def Ready (r : Registers) (s : BufferStep) : Prop :=
  ∀ name ∈ s.reads, ∀ b, r.get? name = some b → b.Rests r.memory

variable {α β : Type} {r : Registers} {name : String} {b : Buffer}

/-! ### Names -/

theorem lookup_replace (l : List (String × Buffer)) (name other : String) (b : Buffer) :
    (put.replace name b l).lookup other = if other = name then some b else l.lookup other := by
  induction l with
  | nil =>
      rw [put.replace, List.lookup_cons, List.lookup_nil]
      by_cases hother : other = name
      · rw [if_pos hother, beq_iff_eq.mpr hother]
      · rw [if_neg hother, beq_eq_false_iff_ne.mpr hother]
  | cons e l ih =>
      rcases e with ⟨key, c⟩
      rw [put.replace]
      by_cases hkey : key = name
      · rw [if_pos (beq_iff_eq.mpr hkey), List.lookup_cons, List.lookup_cons, hkey]
        by_cases hother : other = name
        · rw [if_pos hother, beq_iff_eq.mpr hother]
        · rw [if_neg hother, beq_eq_false_iff_ne.mpr hother]
      · rw [if_neg (by simpa using hkey), List.lookup_cons, List.lookup_cons, ih]
        by_cases hother : other = name
        · rw [if_pos hother, if_pos hother, hother, beq_eq_false_iff_ne.mpr (Ne.symm hkey)]
        · rw [if_neg hother, if_neg hother]

/-- A buffer is found under the name it was last stored under. -/
theorem get?_put (r : Registers) (name other : String) (b : Buffer) :
    (r.put name b).get? other = if other = name then some b else r.get? other :=
  lookup_replace r.buffers name other b

@[simp] theorem memory_put (r : Registers) (name : String) (b : Buffer) :
    (r.put name b).memory = r.memory := rfl

/-- Storing a buffer as it is changes nothing. -/
theorem put_self (hb : r.get? name = some b) : r.put name b = r := by
  -- The order of the entries counts as well, so equal lookups would not be enough.
  have hsame : ∀ l : List (String × Buffer), l.lookup name = some b → put.replace name b l = l := by
    intro l hl
    induction l with
    | nil => cases hl
    | cons e l ih =>
        rcases e with ⟨key, c⟩
        rw [put.replace]
        by_cases hkey : key = name
        · rw [List.lookup_cons, hkey, beq_self_eq_true] at hl
          cases hl
          rw [if_pos (beq_iff_eq.mpr hkey), hkey]
        · rw [List.lookup_cons, beq_eq_false_iff_ne.mpr (Ne.symm hkey)] at hl
          rw [if_neg (by simpa using hkey), ih hl]
  rw [put, hsame r.buffers hb]

/-! ### Buffers and memory -/

theorem find_eq (hb : r.get? name = some b) : r.find name = .ok b := by
  rw [find, hb]

theorem get?_of_find (h : r.find name = .ok b) : r.get? name = some b := by
  rw [find] at h
  cases hget : r.get? name with
  | none => rw [hget] at h; cases h
  | some c => rw [hget] at h; cases h; rfl

theorem fetch_eq (r : Registers) (name : String) :
    (fetch name).run r = answer r (r.find name) := by
  rw [fetch, find]
  dsimp only
  cases r.get? name <;> rfl

theorem fetch_ok (hb : r.get? name = some b) : (fetch name).run r = (.ok b, r) := by
  rw [fetch_eq, find_eq hb]
  rfl

/-- The machine with the memory in which a buffer has been made. -/
def onto (r : Registers) (x : Except Error (α × Memory)) : Except Error (α × Registers) :=
  x.map fun made => (made.1, { r with memory := made.2 })

/-- What is done with a buffer that has been looked up. -/
theorem fetch_bind {k : Buffer → Procedure Registers α} {y : Buffer → Except Error (α × Registers)}
    (hk : ∀ b, r.get? name = some b → (k b).run r = settle r (y b)) :
    (fetch name >>= k).run r = settle r (r.find name >>= y) :=
  answer_bind (fetch_eq r name) fun b hb => hk b (get?_of_find hb)

/-- What is made of something that has been looked up. -/
theorem answer_onto {p : Procedure Registers α} {x : Except Error α} {k : α → Procedure Registers β}
    {y : α → Except Error (β × Memory)} (hp : p.run r = answer r x)
    (hk : ∀ a, x = .ok a → (k a).run r = settle r (r.onto (y a))) :
    (p >>= k).run r = settle r (r.onto (x >>= y)) := by
  rw [answer_bind hp hk]
  cases x <;> rfl

theorem fetch_onto {k : Buffer → Procedure Registers α} {y : Buffer → Except Error (α × Memory)}
    (hk : ∀ b, r.get? name = some b → (k b).run r = settle r (r.onto (y b))) :
    (fetch name >>= k).run r = settle r (r.onto (r.find name >>= y)) :=
  answer_onto (fetch_eq r name) fun b hb => hk b (get?_of_find hb)

theorem each_fetch (r : Registers) (names : List String) :
    (each fetch names).run r = answer r (names.mapM r.find) := by
  induction names with
  | nil => rfl
  | cons name names ih =>
      rw [each, List.mapM_cons]
      exact answer_bind_answer (fetch_eq r name) fun b _ => answer_bind_answer ih fun bs _ => rfl

/-- Work on memory that leaves it alone. -/
theorem access_answer {a : Access α} {x : Except Error α} (h : a.run r.memory = answer r.memory x) :
    (access a).run r = answer r x := by
  change ((a.run r.memory).1, (⟨(a.run r.memory).2, r.buffers⟩ : Registers)) = _
  rw [h]
  cases x <;> rfl

theorem access_ok {a : Access α} {v : α} (h : a.run r.memory = (.ok v, r.memory)) :
    (access a).run r = (.ok v, r) :=
  access_answer (x := .ok v) h

/-- Work on memory that makes something. -/
theorem access_settle {a : Access α} {x : Except Error (α × Memory)}
    (h : a.run r.memory = settle r.memory x) :
    (access a).run r = settle r (r.onto x) := by
  change ((a.run r.memory).1, (⟨(a.run r.memory).2, r.buffers⟩ : Registers)) = _
  rw [h]
  cases x <;> rfl

theorem access_made {a : Access Buffer} {x : Buffer × Memory}
    (h : a.run r.memory = Access.made x) :
    (access a).run r = (.ok x.1, { r with memory := x.2 }) :=
  access_settle (x := .ok x) h

/-- A call on a buffer that is there. -/
theorem run_call (hb : r.get? name = some b) (c : Call α) :
    (call name c).run r = ((c.run ⟨b, r.memory⟩).1,
      { r with memory := (c.run ⟨b, r.memory⟩).2.memory }.put name
        (c.run ⟨b, r.memory⟩).2.buffer) := by
  rw [call]
  dsimp only
  rw [hb]

/-- A call on a buffer that does all or nothing. If it fails, the buffer is stored as it was. -/
theorem call_settle (hb : r.get? name = some b) {c : Call α} {x : Except Error β}
    {k : β → α × Grip} (h : c.run ⟨b, r.memory⟩ = settle ⟨b, r.memory⟩ (x.map k)) :
    (call name c).run r = settle r (do
      let v ← x
      return ((k v).1, { r with memory := (k v).2.memory }.put name (k v).2.buffer)) := by
  rw [run_call hb, h]
  cases x with
  | error cause => exact Prod.ext rfl (put_self hb)
  | ok v => rfl

theorem call_ok (hb : r.get? name = some b) {c : Call α} {a : α} {g : Grip}
    (h : c.run ⟨b, r.memory⟩ = (.ok a, g)) :
    (call name c).run r = (.ok a, { r with memory := g.memory }.put name g.buffer) := by
  rw [run_call hb, h]

theorem tells_settle (hb : r.get? name = some b) {c : Call α} {x : Except Error β}
    {k : β → α × Grip} (h : c.run ⟨b, r.memory⟩ = settle ⟨b, r.memory⟩ (x.map k))
    (show' : α → BufferReply) :
    (tells name c show').run r = settle r (do
      let v ← x
      return r.after name (show' (k v).1) (k v).2.buffer (k v).2.memory) := by
  rw [tells, run_bind, call_settle hb h]
  cases x <;> rfl

theorem tells_ok (hb : r.get? name = some b) {c : Call α} {a : α} {g : Grip}
    (h : c.run ⟨b, r.memory⟩ = (.ok a, g)) (show' : α → BufferReply) :
    (tells name c show').run r = settle r (.ok (r.after name (show' a) g.buffer g.memory)) :=
  bind_of_ok (call_ok hb h)

theorem asks_answer (hb : r.get? name = some b) {f : Buffer → Access α} {x : Except Error α}
    (h : (f b).run r.memory = answer r.memory x) (show' : α → BufferReply) :
    (asks name f show').run r = settle r (do let v ← x; return (show' v, r)) := by
  rw [asks, bind_of_ok (fetch_ok hb), run_bind, access_answer h]
  cases x <;> rfl

theorem asks_ok (hb : r.get? name = some b) {f : Buffer → Access α} {a : α}
    (h : (f b).run r.memory = (.ok a, r.memory)) (show' : α → BufferReply) :
    (asks name f show').run r = settle r (.ok (show' a, r)) :=
  asks_answer (x := .ok a) hb h show'

/-! ### Making a buffer -/

theorem build_eq (making : Making)
    (h : ∀ source ∈ making.sources, ∀ b, r.get? source = some b → b.Rests r.memory) :
    (build making).run r =
      settle r (r.onto (r.make making)) := by
  -- Most ways of making a buffer read one source, and two of them read a list.
  have hone : ∀ source b, making.sources = [source] → r.get? source = some b → b.Rests r.memory :=
    fun source b hsource => h source (hsource ▸ List.mem_singleton_self source) b
  have hall : Yields (fun bs : List Buffer => ∀ c ∈ bs, c.Rests r.memory)
      (making.sources.mapM r.find) :=
    Yields.mapM fun source hsource c hc => h source hsource c (get?_of_find hc)
  cases making with
  | growable order capacity => exact access_made (Access.made_growable order capacity r.memory)
  | fixed order capacity => exact access_made (Access.made_fixed order capacity r.memory)
  | empty => rfl
  | wrap order bytes => exact access_made (Access.made_wrap order bytes r.memory)
  | copied order bytes | text order bytes =>
      exact access_made (Access.made_copied order _ r.memory)
  | wrapParts order parts => exact access_made (Access.made_wrapParts order parts r.memory)
  | copyParts order parts => exact access_settle (Access.copyParts_eq order parts r.memory)
  | wrapOf source | readableSlice source =>
      exact fetch_onto (y := fun b => .ok (b.readableSlice, r.memory)) fun b hb =>
        access_ok (hone source b rfl hb).readableSlice
  | copyOf source =>
      exact fetch_onto (y := fun b => .ok (b.copyOf r.memory)) fun b hb =>
        access_made (hone source b rfl hb).copyOf
  | wrapAll sources =>
      refine answer_onto (each_fetch r sources) fun bs hbs =>
        (access_answer (Access.wrapAll_eq (hall bs hbs))).trans ?_
      cases Buffer.wrapAll bs <;> rfl
  | copyAll sources =>
      exact answer_onto (each_fetch r sources) fun bs hbs =>
        access_settle (Access.copyAll_eq (hall bs hbs))
  | factory f order capacity =>
      cases order <;> exact access_made (Access.made_growable _ capacity r.memory)
  | factoryOf f bytes => exact access_made (Access.made_bufferOf f bytes r.memory)
  | duplicate source =>
      refine (fetch_eq r source).trans ?_
      rw [make]
      cases r.find source <;> rfl
  | withOrder source order =>
      exact fetch_onto (y := fun b => .ok (b.withOrder order, r.memory)) fun b _ => rfl
  | slice source index length =>
      refine fetch_onto fun b hb =>
        (access_answer ((hone source b rfl hb).slice index length)).trans ?_
      cases b.slice index length <;> rfl
  | copy source index length =>
      exact fetch_onto fun b hb => access_settle ((hone source b rfl hb).copy index length)

/-! ### Numbers -/

/-- Numbers that stand in bytes as `f` says are words: they are written as the same bytes, and
    the answer that is read off any bytes is the same. -/
structure Renders (numeral : Numeral) (f : Format α) (bits : Int → α) (show' : α → BufferReply) :
    Prop where
  width : f.width = numeral.width
  zero : show' f.zero = showWord numeral 0
  encode : ∀ order value, f.encode order (bits value) = Word.encode order (bitsOf numeral value)
  decode : ∀ order (bytes : Bytes), bytes.length = numeral.width →
    show' (f.decode order bytes) = showWord numeral (Word.decode numeral.width order bytes)

/-- So are those of three bytes, with a sign and without. -/
theorem renders_medium (reading : Reading) :
    Renders ⟨3, reading⟩ (match reading with | .signed => .signedMedium | _ => .medium)
      (BitVec.ofInt 32) (showMedium reading) := by
  -- Without a sign the upper byte of the four is zero, so the number is that of the three.
  have hunsigned : ∀ order (bytes : Bytes), bytes.length = 3 →
      (Format.ofLowBytes order bytes).toNat = (Word.decode 3 order bytes).toNat :=
    fun order bytes => Format.toNat_ofLowBytes order
  cases reading with
  | unsigned =>
      exact ⟨rfl, rfl, Format.lowBytes_ofInt, fun order bytes h =>
        congrArg (BufferReply.number ∘ Int.ofNat) (hunsigned order bytes h)⟩
  | signed =>
      exact ⟨rfl, rfl, Format.lowBytes_ofInt, fun order bytes h =>
        congrArg BufferReply.number (Format.toInt_ofLowBytes order h)⟩
  | pattern =>
      exact ⟨rfl, rfl, Format.lowBytes_ofInt, fun order bytes h =>
        congrArg (BufferReply.pattern 3) (hunsigned order bytes h)⟩

section Numbers

variable {m : Memory} {numeral : Numeral} {f : Format α} {bits : Int → α} {show' : α → BufferReply}

/-- What is read as a number of the kind is read as a word. -/
theorem Renders.read (hf : Renders numeral f bits show') (h : b.Rests m) {index : Nat}
    {bytes : Bytes} (hbytes : b.getBytes m index numeral.width = .ok bytes) (order : ByteOrder) :
    show' (f.decode order bytes) = showWord numeral (Word.decode numeral.width order bytes) := by
  refine hf.decode order bytes ?_
  rcases ok_of_bind hbytes with ⟨_, hcheck, hpeek⟩
  cases hpeek
  exact h.length_peek (Buffer.Rests.le_of_checkWindow hcheck)

/-- What is read with a number of the kind, passing over it. -/
theorem tryRead_eq (hf : Renders numeral f bits show') (h : b.Rests m) :
    (useFormat f bits show' .tryRead).run ⟨b, m⟩ =
      settle ⟨b, m⟩ ((useWord b m numeral .tryRead).map fun used =>
        (used.1, ⟨used.2.1, used.2.2⟩)) := by
  refine (run_bind _ _ _).trans ?_
  rw [h.tryRead f, useWord, Buffer.tryReadWord, Buffer.getWord, hf.width]
  cases b.checkReadable numeral.width with
  | error cause => rfl
  | ok _ =>
      cases hbytes : b.getBytes m b.reader numeral.width with
      | error cause => rfl
      | ok bytes =>
          exact Prod.ext (congrArg Except.ok (hf.read h hbytes b.order)) rfl

theorem useFormat_eq (hf : Renders numeral f bits show') (h : b.Rests m) (use : WordUse) :
    (useFormat f bits show' use).run ⟨b, m⟩ =
      settle ⟨b, m⟩ ((useWord b m numeral use).map fun used => (used.1, ⟨used.2.1, used.2.2⟩)) := by
  have hencode := hf.encode b.order
  cases use with
  | get index =>
      refine (run_bind _ _ _).trans ?_
      rw [Call.ask_answer (f := (Access.get f · index)) (h.get f index), useWord, Buffer.getWord,
        hf.width]
      cases hbytes : b.getBytes m index numeral.width with
      | error cause => rfl
      | ok bytes => exact Prod.ext (congrArg Except.ok (hf.read h hbytes b.order)) rfl
  | set index value =>
      refine (run_bind _ _ _).trans ?_
      rw [Call.set, Call.run_self_bind, hencode, h.setBytes index, useWord, Buffer.setWord]
      cases b.setBytes m index (Word.encode b.order (bitsOf numeral value)) <;> rfl
  | read =>
      -- Where the reading fails, both give zero.
      refine (run_bind _ _ _).trans ?_
      rw [Call.read]
      dsimp only
      rw [h.tryRead f, useWord, Buffer.readWord, Buffer.tryReadWord, Buffer.getWord, hf.width]
      cases b.checkReadable numeral.width with
      | error cause => exact Prod.ext (congrArg Except.ok hf.zero) rfl
      | ok _ =>
          cases hbytes : b.getBytes m b.reader numeral.width with
          | error cause => exact Prod.ext (congrArg Except.ok hf.zero) rfl
          | ok bytes => exact Prod.ext (congrArg Except.ok (hf.read h hbytes b.order)) rfl
  | tryRead => exact tryRead_eq hf h
  | write value =>
      refine (run_bind _ _ _).trans ?_
      rw [Call.write, Call.run_self_bind, hencode, h.writeSlice]
      rfl
  | writeAhead value =>
      refine (run_bind _ _ _).trans ?_
      rw [Call.writeAhead, Call.run_self_bind, hencode, h.writeBytesAhead, useWord,
        Buffer.writeWordAhead]
      cases b.writeAhead m (Word.encode b.order (bitsOf numeral value)) <;> rfl

theorem useNumber_eq (h : b.Rests m) (numeral : Numeral) (use : WordUse) :
    (useNumber numeral use).run ⟨b, m⟩ =
      settle ⟨b, m⟩ ((useWord b m numeral use).map fun used => (used.1, ⟨used.2.1, used.2.2⟩)) := by
  rw [useNumber]
  by_cases hthree : numeral.width = 3
  · rcases numeral with ⟨width, reading⟩
    cases hthree
    rw [if_pos rfl]
    exact useFormat_eq (renders_medium reading) h use
  · rw [if_neg hthree]
    exact useFormat_eq ⟨rfl, rfl, fun _ _ => rfl, fun _ _ _ => rfl⟩ h use

end Numbers

/-! ### Working on a buffer -/

theorem present_eq (taken : Buffer) (keep : Option String) (rest : Buffer) (m : Memory) :
    (present taken keep).run ({ r with memory := m }.put name rest) =
      (.ok (r.showTaken name taken rest m keep).1, (r.showTaken name taken rest m keep).2) := by
  cases keep <;> rfl

theorem perform_eq (hb : r.get? name = some b) (h : b.Rests r.memory) (working : Working)
    (hsources : ∀ source ∈ working.sources, ∀ c, r.get? source = some c → c.Rests r.memory) :
    (perform name working).run r = settle r (r.work name b working) := by
  cases working with
  | readBytes length keep =>
      refine (run_bind _ _ _).trans ?_
      rw [call_settle hb (h.readBytes length), work]
      -- The answer shows what was taken once the buffer has been stored.
      cases b.readBytes r.memory length with
      | error cause => rfl
      | ok taken => exact present_eq _ _ _ _
  | readSlice length keep =>
      refine (run_bind _ _ _).trans ?_
      rw [call_settle hb (h.readSlice length), work]
      cases b.readSlice length with
      | error cause => rfl
      | ok taken => exact present_eq _ _ _ _
  | decompose index length keep =>
      rw [perform, bind_of_ok (fetch_ok hb)]
      exact answer_bind (access_answer (h.decompose index length)) fun parts _ => rfl
  | components keep =>
      rw [perform, bind_of_ok (fetch_ok hb), bind_of_ok (access_ok h.components)]
      rfl
  | drainFrom source =>
      refine fetch_bind fun src hsrc => ?_
      have hsrcRests := hsources source (List.mem_singleton_self source) src hsrc
      rw [run_bind, call_ok hb (h.writeBuffer hsrcRests)]
      rfl
  | compare other =>
      rw [perform, bind_of_ok (fetch_ok hb)]
      refine fetch_bind fun o ho => ?_
      have hoRests := hsources other (List.mem_singleton_self other) o ho
      rw [bind_of_ok (access_ok (h.compareTo hoRests)),
        bind_of_ok (access_ok (hoRests.compareTo h)), bind_of_ok (access_ok (h.equals hoRests)),
        bind_of_ok (access_ok h.hashCode), bind_of_ok (access_ok hoRests.hashCode)]
      rfl
  | setReader index => exact tells_settle hb (Call.setReader_eq index b r.memory) _
  | setWriter index => exact tells_settle hb (Call.setWriter_eq index b r.memory) _
  | setCursors reader writer =>
      exact tells_settle hb (Call.setCursors_eq reader writer b r.memory) _
  | resetReader =>
      exact tells_settle (c := Call.resetReader) hb (Call.setReader_eq b.readerMark b r.memory) _
  | resetWriter =>
      exact tells_settle (c := Call.resetWriter) hb (Call.setWriter_eq b.writerMark b r.memory) _
  | clear => exact tells_ok (c := Call.clear) hb rfl _
  | markReader => exact tells_ok (c := Call.markReader) hb rfl _
  | markWriter => exact tells_ok (c := Call.markWriter) hb rfl _
  | discardReadBytes => exact tells_ok hb h.discardReadBytes _
  | ensureWritableBytes length => exact tells_settle hb (h.ensureWritableBytes length) _
  | ensureWritable length force =>
      -- This call never fails, since its answer says when there is no room.
      rcases h.ensureWritable length force with ⟨v, rs, m', hensure, hrun, -⟩
      rw [work, hensure]
      exact tells_ok hb hrun _
  | setBytes index bytes => exact tells_settle hb (h.setBytes index bytes) _
  | setZero index length => exact tells_ok hb (h.setZero index length) _
  | readInto length => exact tells_settle hb (h.readInto length) _
  | skip length => exact tells_settle hb (h.skip length) _
  | write bytes => exact tells_ok hb (h.writeSlice bytes) _
  | writeZero length => exact tells_ok hb (h.writeZero length) _
  | writeZeroAhead length => exact tells_ok hb (h.writeZeroAhead length) _
  | writeAhead bytes => exact tells_settle hb (h.writeBytesAhead bytes) _
  | word numeral use => exact call_settle hb (useNumber_eq h numeral use)
  | grownCapacity target => exact asks_ok (a := b.grownCapacity target) hb rfl _
  | getBytes index length => exact asks_answer hb (h.getBytes index length) _
  | indexOf start stop value =>
      exact asks_ok hb (h.indexOfBy (Buffer.isByte value) start stop ()) _
  | bytesBefore value => exact asks_ok hb (h.bytesBeforeBy (Buffer.isByte value) ()) _
  | indexWithin start stop low high =>
      exact asks_ok hb (h.indexOfBy (within low high) start stop []) _
  | bytesBeforeWithin low high =>
      exact asks_ok (f := (Access.bytesBeforeBy · (within low high) [])) hb
        (h.bytesBeforeBy (within low high) []) _
  | indexWhere start stop ask =>
      exact asks_ok hb (h.indexOfBy (remembering ask) start stop []) _
  | bytesBeforeWhere ask =>
      exact asks_ok (f := (Access.bytesBeforeBy · (remembering ask) [])) hb
        (h.bytesBeforeBy (remembering ask) []) _
  | toText | content | hexDump => exact asks_ok hb h.toVec _
  | hexDumpOf index length => exact asks_answer hb (h.hexDumpOf index length) _
  | hash => exact asks_ok hb h.hashCode _
  | info =>
      rw [perform, bind_of_ok (fetch_ok hb), bind_of_ok (access_ok h.readableBytes),
        bind_of_ok (access_ok h.writableBytes), bind_of_ok (access_ok h.maxWritableBytes),
        bind_of_ok (access_ok h.isReadable), bind_of_ok (access_ok h.isWritable),
        bind_of_ok (access_ok h.hashCode)]
      rfl
  | debug => exact asks_ok (a := b.debug) hb rfl _

/-! ### Steps -/

/-- A step on buffers that rest comes to its outline. Where that is an error, the step leaves
    the machine as it was. -/
theorem exec_eq {s : BufferStep} (h : r.Ready s) : (exec s).run r = settle r (r.outline s) := by
  rcases s with ⟨register, shown, making | working⟩
  · have hbuild := build_eq making fun source hsource => h source (List.mem_cons_of_mem _ hsource)
    refine (run_bind _ _ _).trans ?_
    rw [hbuild, outline_making]
    cases r.make making <;> rfl
  · refine fetch_bind fun b hb => ?_
    exact perform_eq hb (h register (List.mem_cons_of_mem _ List.mem_cons_self) b hb) working
      fun source hsource => h source (List.mem_cons_of_mem _ (List.mem_cons_of_mem _ hsource))

theorem step_eq {s : BufferStep} (h : r.Ready s) :
    r.step s =
      match r.outline s with
      | .ok result => result
      | .error cause => (.failed cause, r) := by
  rw [step, exec_eq h]
  cases r.outline s <;> rfl

end Registers

end Conduit
