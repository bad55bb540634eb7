import Conduit.Buffer.View
import Conduit.Notice

/-!
# Lines

Cutting a stream of bytes into lines. A framer looks at the readable bytes of a
buffer and takes the first line off the front, if the end of one is in sight.

A line longer than the framer allows is dropped as a whole. If its end is not in
sight yet, what there is of it is passed over at once, so that it need not be
kept, and the framer remembers how much that was; the error is raised when the
end turns up, with the full length. The framer's only state is that it is passing
over a line, and by how many bytes.

## Main definitions

* `Terminator`: Which line endings count.
* `Terminator.firstEnd`: Where the first line ends, and how long its ending is.
* `LineFramer`: The settings, and the line that is being passed over.
* `LineFramer.decode`: One attempt to take a line.
-/

namespace Conduit

/-- Which line endings end a line. -/
inductive Terminator where
  /-- A line feed, with a carriage return before it or without. -/
  | both
  /-- A line feed. A carriage return before it belongs to the line. -/
  | newline
  /-- A carriage return and a line feed. A line feed alone belongs to the line. -/
  | crlf
  deriving DecidableEq, Repr, Inhabited

namespace Terminator

def lineFeed : UInt8 := 0x0a

def carriageReturn : UInt8 := 0x0d

/-- Where the first line ends, and how long its ending is. The scan stands at index
    `i`; `afterReturn` says that the byte before it is a carriage return. -/
def firstEndFrom (t : Terminator) (i : Nat) (afterReturn : Bool) : Bytes → Option (Nat × Nat)
  | [] => none
  | byte :: rest =>
    if byte = lineFeed then
      match t, afterReturn with
      | newline, _ => some (i, 1)
      | both, true | crlf, true => some (i - 1, 2)
      | both, false => some (i, 1)
      | crlf, false => firstEndFrom t (i + 1) false rest
    else firstEndFrom t (i + 1) (byte = carriageReturn) rest

/-- Where the first line of a byte string ends, and how long its ending is. -/
def firstEnd (t : Terminator) (bytes : Bytes) : Option (Nat × Nat) :=
  t.firstEndFrom 0 false bytes

end Terminator

/-- Cuts lines off the front of a buffer. -/
structure LineFramer where
  /-- The longest line allowed, its ending not counted. -/
  maxLength : Nat
  /-- Lines come without their ending. -/
  strip : Bool
  terminator : Terminator
  /-- An over-long line is being passed over. -/
  discarding : Bool := false
  /-- How many bytes of it have been passed over. -/
  discardedBytes : Nat := 0
  deriving DecidableEq, Repr, Inhabited

namespace LineFramer

/-- What an attempt to take a line leads to. -/
structure Attempt where
  /-- The line, or that there is none yet, or why it was dropped. -/
  result : Except Error (Option Buffer)
  framer : LineFramer
  buffer : Buffer
  memory : Memory
  notices : List Notice := []

/-- The error for a line of the given length. -/
def tooLong (f : LineFramer) (length : Nat) : Error :=
  .decode (.overLong length f.maxLength)

/-- Ends an attempt by moving the reader, with `result` if it can be moved. The framer is
    `next` then, and `f` otherwise. -/
def passTo (f next : LineFramer) (b : Buffer) (m : Memory) (index : Nat)
    (result : Except Error (Option Buffer)) (notices : List Notice := []) : Attempt :=
  match b.setReader index with
  | .ok b => ⟨result, next, b, m, notices⟩
  | .error cause => ⟨.error cause, f, b, m, notices⟩

/-- Takes a line of `length` bytes with an ending of `ending` bytes off the front. -/
def take (f : LineFramer) (b : Buffer) (m : Memory) (length ending : Nat) : Attempt :=
  if f.strip then
    match b.readBytes m length with
    | .error cause => ⟨.error cause, f, b, m, []⟩
    | .ok (line, b, m) =>
      match b.skip ending with
      | .error cause => ⟨.error cause, f, b, m, []⟩
      | .ok b => ⟨.ok (some line), f, b, m, []⟩
  else
    match b.readBytes m (length + ending) with
    | .error cause => ⟨.error cause, f, b, m, []⟩
    | .ok (line, b, m) => ⟨.ok (some line), f, b, m, []⟩

/-- One attempt to take a line off the front of a buffer. -/
def decode (f : LineFramer) (b : Buffer) (m : Memory) : Attempt :=
  match f.terminator.firstEnd (b.content m), f.discarding with
  | some (length, ending), true =>
    f.passTo { f with discarding := false, discardedBytes := 0 } b m
      (b.reader + length + ending) (.error (f.tooLong (f.discardedBytes + length)))
  | none, true =>
    -- The bytes are counted before the reader is moved.
    let f := { f with discardedBytes := f.discardedBytes + b.readableBytes }
    f.passTo f b m b.writer (.ok none)
  | some (length, ending), false =>
    if f.maxLength < length then
      f.passTo f b m (b.reader + length + ending) (.error (f.tooLong length))
    else f.take b m length ending
  | none, false =>
    if f.maxLength < b.readableBytes then
      let f := { f with discarding := true, discardedBytes := b.readableBytes }
      f.passTo f b m b.writer (.ok none) [.overLongLine b.readableBytes]
    else ⟨.ok none, f, b, m, []⟩

end LineFramer

end Conduit
