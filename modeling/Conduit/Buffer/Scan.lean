import Conduit.Buffer.Basic

/-!
# Scanning for a Byte

Finding the first byte that satisfies a predicate, forwards or backwards. The
direction follows from the bounds: from a lower one to a higher one the scan runs
forwards and stops before the upper bound, and otherwise it starts right before
the upper bound and runs down to the lower one. In both directions the upper
bound is clamped to the capacity.

The predicate carries a state of its own from one byte to the next, so what it
was asked, and in which order, is part of the result.

## Main definitions

* `Buffer.findUp`, `Buffer.findDown`: The first hit of a predicate with state, in either
  direction.
* `Buffer.indexOfBy`, `Buffer.indexOf`: Scanning between two bounds.
* `Buffer.bytesBeforeBy`, `Buffer.bytesBefore`: Scanning the readable bytes.
-/

namespace Conduit.Buffer

variable {σ : Type}

/-- A question about one byte that may remember earlier ones. -/
abbrev Question (σ : Type) := UInt8 → σ → Bool × σ

/-- The first of `count` indices, from `index` upwards, whose byte satisfies the
    question, and the state of the question after it. -/
def findUp (b : Buffer) (m : Memory) (ask : Question σ) (index : Nat) :
    (count : Nat) → σ → Option Nat × σ
  | 0, s => (none, s)
  | count + 1, s =>
    match m.byteAt b.regions index with
    | none => (none, s)
    | some byte =>
      match ask byte s with
      | (true, s) => (some index, s)
      | (false, s) => findUp b m ask (index + 1) count s

/-- The first of `count` indices, from right below `low + count` down to `low`, whose
    byte satisfies the question, and the state of the question after it. -/
def findDown (b : Buffer) (m : Memory) (ask : Question σ) (low : Nat) :
    (count : Nat) → σ → Option Nat × σ
  | 0, s => (none, s)
  | count + 1, s =>
    match m.byteAt b.regions (low + count) with
    | none => (none, s)
    | some byte =>
      match ask byte s with
      | (true, s) => (some (low + count), s)
      | (false, s) => findDown b m ask low count s

/-- Scans from `start` to `stop`: forwards if they are in order, and otherwise
    backwards from right before `start` down to `stop`. -/
def indexOfBy (b : Buffer) (m : Memory) (start stop : Nat) (ask : Question σ) (s : σ) :
    Option Nat × σ :=
  if start ≤ stop then b.findUp m ask start (min stop b.capacity - start) s
  else b.findDown m ask stop (min start b.capacity - stop) s

/-- The distance from the reader to the first readable byte that satisfies the
    question. -/
def bytesBeforeBy (b : Buffer) (m : Memory) (ask : Question σ) (s : σ) : Option Nat × σ :=
  let (hit, s) := b.indexOfBy m b.reader b.writer ask s
  (hit.map (· - b.reader), s)

/-- Asks whether the byte is a given one. -/
def isByte (value : UInt8) : Question Unit := fun byte s => (byte == value, s)

/-- The first index between two bounds that holds `value`, in scan order. -/
def indexOf (b : Buffer) (m : Memory) (start stop : Nat) (value : UInt8) : Option Nat :=
  (b.indexOfBy m start stop (isByte value) ()).1

/-- The distance from the reader to the first readable `value`. -/
def bytesBefore (b : Buffer) (m : Memory) (value : UInt8) : Option Nat :=
  (b.bytesBeforeBy m (isByte value) ()).1

end Conduit.Buffer
