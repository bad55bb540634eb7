import Conduit.Buffer.Call

/-!
# A Register Machine for Buffers

Programs over named buffers that share one memory. A step makes a buffer and
stores it under a name, or works on the buffer with a given name and stores it
back as the operation leaves it. This is so as well where the operation fails: what
it has done until then to the buffer and to memory is there to be seen. After each
step the machine shows the buffer it touched.

## Main definitions

* `Numeral`: A width, and how the bits of that width are read as a number.
* `Making`: A way to make a buffer.
* `Working`: Something to do with a buffer.
* `BufferReply`: What a step answers.
* `Registers.call`, `Registers.access`: Working on a buffer, and on memory.
* `Registers.build`, `Registers.perform`: Making a buffer, and working on one.
* `Registers.step`: One step.
* `Registers.run`: A program.
-/

namespace Conduit

/-- How the bits of a word are read. -/
inductive Reading where
  | unsigned
  | signed
  /-- As a pattern of bits, such as a floating-point number. -/
  | pattern
  deriving DecidableEq, Repr, Inhabited

/-- A kind of number: its width in bytes, and how its bits are read. -/
structure Numeral where
  width : Nat
  reading : Reading := .unsigned
  deriving DecidableEq, Repr, Inhabited

/-- What can be done with a number in a buffer. -/
inductive WordUse where
  | get (index : Nat)
  | set (index : Nat) (value : Int)
  | read
  | tryRead
  | write (value : Int)
  | writeAhead (value : Int)
  deriving Repr, Inhabited

/-- A way to make a buffer. -/
inductive Making where
  | growable (order : ByteOrder) (capacity : Nat)
  | fixed (order : ByteOrder) (capacity : Nat)
  | empty
  | wrap (order : ByteOrder) (bytes : Bytes)
  | copied (order : ByteOrder) (bytes : Bytes)
  | wrapParts (order : ByteOrder) (parts : List Bytes)
  | copyParts (order : ByteOrder) (parts : List Bytes)
  | wrapOf (source : String)
  | copyOf (source : String)
  | wrapAll (sources : List String)
  | copyAll (sources : List String)
  | text (order : ByteOrder) (text : String)
  /-- A factory in one order asked for a buffer, in another order if one is given. -/
  | factory (factory : BufferFactory) (order : Option ByteOrder) (capacity : Nat)
  | factoryOf (factory : BufferFactory) (bytes : Bytes)
  | duplicate (source : String)
  | withOrder (source : String) (order : ByteOrder)
  | readableSlice (source : String)
  | slice (source : String) (index length : Nat)
  | copy (source : String) (index length : Nat)
  deriving Repr, Inhabited

/-- Something to do with a buffer. -/
inductive Working where
  | readBytes (length : Nat) (keep : Option String)
  | readSlice (length : Nat) (keep : Option String)
  | decompose (index length : Nat) (keep : Option String)
  | components (keep : Option String)
  | drainFrom (source : String)
  | compare (other : String)
  | word (numeral : Numeral) (use : WordUse)
  | setReader (index : Nat)
  | setWriter (index : Nat)
  | setCursors (reader writer : Nat)
  | clear
  | markReader
  | markWriter
  | resetReader
  | resetWriter
  | discardReadBytes
  | ensureWritableBytes (length : Nat)
  | ensureWritable (length : Nat) (force : Bool)
  | grownCapacity (target : Nat)
  | getBytes (index length : Nat)
  | setBytes (index : Nat) (bytes : Bytes)
  | setZero (index length : Nat)
  | readInto (length : Nat)
  | skip (length : Nat)
  | write (bytes : Bytes)
  | writeZero (length : Nat)
  | writeZeroAhead (length : Nat)
  | writeAhead (bytes : Bytes)
  | indexOf (start stop : Nat) (value : UInt8)
  | bytesBefore (value : UInt8)
  | indexWithin (start stop : Nat) (low high : Int)
  | bytesBeforeWithin (low high : Int)
  /-- A scan with any question: it is answered from all bytes asked about, newest first. -/
  | indexWhere (start stop : Nat) (answer : Bytes → Bool)
  | bytesBeforeWhere (answer : Bytes → Bool)
  | toText
  | content
  | hexDump
  | hexDumpOf (index length : Nat)
  | hash
  | info
  | debug
  deriving Inhabited

/-- A step of a program. The buffer it works on, or stores, is `register`; the one
    shown after it is `shown`. -/
structure BufferStep where
  register : String
  shown : String
  act : Making ⊕ Working

/-- What two buffers say about each other: order both ways, equality, and hashes. -/
structure Comparison where
  order : Ordering
  reversed : Ordering
  equal : Bool
  hashes : Int × Int
  deriving Repr, Inhabited

/-- What a buffer says about its room. -/
structure Room where
  readable : Nat
  writable : Nat
  maxWritable : Nat
  isReadable : Bool
  isWritable : Bool
  hash : Int
  deriving Repr, Inhabited

/-- What a step answers. -/
inductive BufferReply where
  | done
  | failed (cause : Error)
  | count (n : Nat)
  | number (n : Int)
  /-- The bits of a word of so many bytes. -/
  | pattern (width bits : Nat)
  | bytes (bytes : Bytes)
  | excerpt (content : Excerpt)
  | found (index : Option Nat)
  /-- What a scan found, and the bytes it looked at. -/
  | scanned (index : Option Nat) (seen : Bytes)
  | snapshots (list : List Snapshot)
  /-- How many bytes were moved, and the source afterwards. -/
  | drained (n : Nat) (source : Snapshot)
  | writability (w : Writability)
  | comparison (c : Comparison)
  | hash (code : Int)
  | room (r : Room)
  | text (text : String)
  deriving Repr, Inhabited

/-- The named buffers of a program, and the memory they share. -/
structure Registers where
  memory : Memory := {}
  buffers : List (String × Buffer) := []
  deriving Inhabited

namespace Registers

open Procedure

variable {α : Type}

/-- The buffer with a name. -/
def get? (r : Registers) (name : String) : Option Buffer :=
  r.buffers.lookup name

/-- The machine with a buffer stored under a name. -/
def put (r : Registers) (name : String) (b : Buffer) : Registers :=
  { r with buffers := replace r.buffers }
where
  /-- The list with the entry of this name replaced, or with a new one at its end. -/
  replace : List (String × Buffer) → List (String × Buffer)
    | [] => [(name, b)]
    | entry :: rest =>
      if entry.1 == name then (name, b) :: rest else entry :: replace rest

/-- The buffer with a name, or the error that there is none. -/
def fetch (name : String) : Procedure Registers Buffer := ⟨fun r =>
  match r.get? name with
  | some b => (.ok b, r)
  | none => (.error (.failed (.noSuchElement (.named name))), r)⟩

/-- Works on memory. -/
def access (a : Access α) : Procedure Registers α := ⟨fun ⟨m, buffers⟩ =>
  let (result, m) := a.run m
  (result, ⟨m, buffers⟩)⟩

/-- Does something to the buffer with a name, and stores it as it is left, however the
    call ends. -/
def call (name : String) (c : Call α) : Procedure Registers α := ⟨fun r =>
  match r.get? name with
  | none => (.error (.failed (.noSuchElement (.named name))), r)
  | some b =>
    let (result, g) := c.run ⟨b, r.memory⟩
    (result, { r with memory := g.memory }.put name g.buffer)⟩

/-- Makes a buffer. -/
def build : Making → Procedure Registers Buffer
  | .growable order capacity => access (Access.growable order capacity)
  | .fixed order capacity => access (Access.fixed order capacity)
  | .empty => pure Buffer.empty
  | .wrap order bytes => access (Access.wrap order bytes)
  | .copied order bytes => access (Access.copied order bytes)
  | .wrapParts order parts => access (Access.wrapParts order parts)
  | .copyParts order parts => access (Access.copyParts order parts)
  | .wrapOf source => do
    let b ← fetch source
    access (Access.readableSlice b)
  | .copyOf source => do
    let b ← fetch source
    access (Access.copyOf b)
  | .wrapAll sources => do
    let bs ← each fetch sources
    access (Access.wrapAll bs)
  | .copyAll sources => do
    let bs ← each fetch sources
    access (Access.copyAll bs)
  | .text order text => access (Access.copied order (Utf8.encode text))
  | .factory f order capacity => access (Access.growable (order.getD f.order) capacity)
  | .factoryOf f bytes => access (Access.bufferOf f bytes)
  | .duplicate source => fetch source
  | .withOrder source order => do
    let b ← fetch source
    return b.withOrder order
  | .readableSlice source => do
    let b ← fetch source
    access (Access.readableSlice b)
  | .slice source index length => do
    let b ← fetch source
    access (Access.slice b index length)
  | .copy source index length => do
    let b ← fetch source
    access (Access.copy b index length)

/-- A word as an answer. -/
def showWord (numeral : Numeral) (v : Word numeral.width) : BufferReply :=
  match numeral.reading with
  | .unsigned => .number v.toNat
  | .signed => .number v.toInt
  | .pattern => .pattern numeral.width v.toNat

/-- The bits of a number in a given width. -/
def bitsOf (numeral : Numeral) (value : Int) : Word numeral.width :=
  BitVec.ofInt _ value

/-- A number of three bytes as an answer. -/
def showMedium (reading : Reading) (v : Word 4) : BufferReply :=
  match reading with
  | .unsigned => .number v.toNat
  | .signed => .number v.toInt
  | .pattern => .pattern 3 v.toNat

/-- Uses a number that stands in bytes as `f` says. -/
def useFormat (f : Format α) (bits : Int → α) (answer : α → BufferReply) :
    WordUse → Call BufferReply
  | .get index => do
    let v ← Call.ask (Access.get f · index)
    return answer v
  | .set index value => do
    Call.set f index (bits value)
    return .done
  | .read => do
    let v ← Call.read f
    return answer v
  | .tryRead => do
    let v ← Call.tryRead f
    return answer v
  | .write value => do
    let n ← Call.write f (bits value)
    return .count n
  | .writeAhead value => do
    Call.writeAhead f (bits value)
    return .done

/-- Uses a number in a buffer. Three bytes have no type of numbers of their own. -/
def useNumber (numeral : Numeral) : WordUse → Call BufferReply :=
  if numeral.width = 3 then
    useFormat (match numeral.reading with | .signed => .signedMedium | _ => .medium)
      (BitVec.ofInt 32) (showMedium numeral.reading)
  else useFormat (.word numeral.width) (bitsOf numeral) (showWord numeral)

/-- A question that remembers the bytes it was asked about, newest first. -/
def remembering (answer : Bytes → Bool) : Buffer.Question Bytes :=
  fun byte seen => (answer (byte :: seen), byte :: seen)

/-- Asks whether a byte lies in a range, and remembers it. -/
def within (low high : Int) : Buffer.Question Bytes :=
  fun byte seen => (low ≤ byte.toNat && byte.toNat ≤ high, byte :: seen)

/-- Stores buffers under a name followed by their place in the list. -/
def putNumbered (r : Registers) (stem : String) (bs : List Buffer) : Registers :=
  (bs.zipIdx).foldl (fun r e => r.put (stem ++ toString e.2) e.1) r

/-- Answers the flat views of a buffer, and stores them if a stem is given. -/
def showParts (r : Registers) (bs : List Buffer) (keep : Option String) :
    BufferReply × Registers :=
  let reply := .snapshots (bs.map (·.snapshot r.memory))
  match keep with
  | none => (reply, r)
  | some stem => (reply, r.putNumbered stem bs)

/-- Answers what a buffer shows, and stores the buffer if a name is given. -/
def present (taken : Buffer) (keep : Option String) : Procedure Registers BufferReply := ⟨fun r =>
  let reply := .excerpt (Excerpt.ofBytes (taken.content r.memory))
  match keep with
  | none => (.ok reply, r)
  | some target => (.ok reply, r.put target taken)⟩

/-- Answers the flat views of a buffer, and stores them if a stem is given. -/
def presentAll (parts : List Buffer) (keep : Option String) :
    Procedure Registers BufferReply := ⟨fun r =>
  let (reply, r) := r.showParts parts keep
  (.ok reply, r)⟩

/-- Asks the buffer with a name. -/
def asks (name : String) (f : Buffer → Access α) (answer : α → BufferReply) :
    Procedure Registers BufferReply := do
  let b ← fetch name
  let a ← access (f b)
  return answer a

/-- Does something to the buffer with a name. -/
def tells (name : String) (c : Call α) (answer : α → BufferReply) :
    Procedure Registers BufferReply := do
  let a ← call name c
  return answer a

/-- What a scan found, and the bytes it looked at, as an answer. -/
def showScan (found : Option Nat × Bytes) : BufferReply := .scanned found.1 found.2.reverse

/-- Works on the buffer with a name. -/
def perform (name : String) : Working → Procedure Registers BufferReply
  | .readBytes length keep => do
    let taken ← call name (Call.readBytes length)
    present taken keep
  | .readSlice length keep => do
    let taken ← call name (Call.readSlice length)
    present taken keep
  | .decompose index length keep => do
    let b ← fetch name
    let parts ← access (Access.decompose b index length)
    presentAll parts keep
  | .components keep => do
    let b ← fetch name
    let parts ← access (Access.components b)
    presentAll parts keep
  | .drainFrom source => do
    let src ← fetch source
    let (n, src) ← call name (Call.writeBuffer src)
    alter (·.put source src)
    let r ← state
    return .drained n (src.snapshot r.memory)
  | .compare other => do
    let b ← fetch name
    let o ← fetch other
    let order ← access (Access.compareTo b o)
    let reversed ← access (Access.compareTo o b)
    let equal ← access (Access.equals b o)
    let left ← access (Access.hashCode b)
    let right ← access (Access.hashCode o)
    return .comparison
      { order := order, reversed := reversed, equal := equal, hashes := (left, right) }
  | .word numeral use => call name (useNumber numeral use)
  | .setReader index => tells name (Call.setReader index) fun _ => .done
  | .setWriter index => tells name (Call.setWriter index) fun _ => .done
  | .setCursors reader writer => tells name (Call.setCursors reader writer) fun _ => .done
  | .clear => tells name Call.clear fun _ => .done
  | .markReader => tells name Call.markReader fun _ => .done
  | .markWriter => tells name Call.markWriter fun _ => .done
  | .resetReader => tells name Call.resetReader fun _ => .done
  | .resetWriter => tells name Call.resetWriter fun _ => .done
  | .discardReadBytes => tells name Call.discardReadBytes fun _ => .done
  | .ensureWritableBytes length => tells name (Call.ensureWritableBytes length) fun _ => .done
  | .ensureWritable length force => tells name (Call.ensureWritable length force) .writability
  | .grownCapacity target => asks name (fun b => pure (b.grownCapacity target)) .count
  | .getBytes index length => asks name (Access.getBytes · index length) .bytes
  | .setBytes index bytes => tells name (Call.setBytes index bytes) fun _ => .done
  | .setZero index length => tells name (Call.setZero index length) .count
  | .readInto length => tells name (Call.readInto length) .bytes
  | .skip length => tells name (Call.skip length) fun _ => .done
  | .write bytes => tells name (Call.writeSlice bytes) .count
  | .writeZero length => tells name (Call.writeZero length) .count
  | .writeZeroAhead length => tells name (Call.writeZeroAhead length) .count
  | .writeAhead bytes => tells name (Call.writeBytesAhead bytes) fun _ => .done
  | .indexOf start stop value =>
    asks name (Access.indexOfBy · start stop (Buffer.isByte value) ()) fun found => .found found.1
  | .bytesBefore value =>
    asks name (Access.bytesBeforeBy · (Buffer.isByte value) ()) fun found => .found found.1
  | .indexWithin start stop low high =>
    asks name (Access.indexOfBy · start stop (within low high) []) showScan
  | .bytesBeforeWithin low high =>
    asks name (Access.bytesBeforeBy · (within low high) []) showScan
  | .indexWhere start stop answer =>
    asks name (Access.indexOfBy · start stop (remembering answer) []) showScan
  | .bytesBeforeWhere answer =>
    asks name (Access.bytesBeforeBy · (remembering answer) []) showScan
  | .toText => asks name Access.toVec fun bytes => .text (Utf8.decodeLossy bytes)
  | .content => asks name Access.toVec .bytes
  | .hexDump => asks name Access.toVec fun bytes => .text (Hex.encode bytes)
  | .hexDumpOf index length => asks name (Access.hexDumpOf · index length) .text
  | .hash => asks name Access.hashCode .hash
  | .info => do
    let b ← fetch name
    let readable ← access (Access.readableBytes b)
    let writable ← access (Access.writableBytes b)
    let maxWritable ← access (Access.maxWritableBytes b)
    let isReadable ← access (Access.isReadable b)
    let isWritable ← access (Access.isWritable b)
    let hash ← access (Access.hashCode b)
    return .room
      { readable := readable
        writable := writable
        maxWritable := maxWritable
        isReadable := isReadable
        isWritable := isWritable
        hash := hash }
  | .debug => asks name (fun b => pure b.debug) .text

/-- Carries out a step. -/
def exec (s : BufferStep) : Procedure Registers BufferReply :=
  match s.act with
  | .inl making => do
    let b ← build making
    alter (·.put s.register b)
    return .done
  | .inr working => do
    let _ ← fetch s.register
    perform s.register working

/-- One step: what it answers, and the machine afterwards. A fault answers what it says. -/
def step (r : Registers) (s : BufferStep) : BufferReply × Registers :=
  match (exec s).run r with
  | (.ok reply, r) => (reply, r)
  | (.error (.failed cause), r) => (.failed cause, r)
  | (.error (.faulted fault), r) => (.failed (.unknown fault.text), r)

/-- What can be seen of the buffer with a name. -/
def snapshot? (r : Registers) (name : String) : Option Snapshot :=
  (r.get? name).map (·.snapshot r.memory)

/-- A program: each answer with the buffer shown after it, and the machine at the end. -/
def run (r : Registers) : List BufferStep → List (BufferReply × Option Snapshot) × Registers
  | [] => ([], r)
  | s :: steps =>
    let (reply, r) := r.step s
    let shown := r.snapshot? s.shown
    let (rest, r) := run r steps
    ((reply, shown) :: rest, r)

end Registers

end Conduit
