import Conduit.Buffer.Basic

/-!
# Comparing Buffers

Order, equality and hashing of buffers as values. All three look at the readable
bytes alone, four at a time with the first byte most significant, whatever the
byte order of the buffers and however many regions they span. Two buffers that
hold the same bytes are therefore equal and hash alike.

Equality has a shortcut: buffers that look through the same window of memory from
the same reader on need not be compared byte by byte.

## Main definitions

* `Buffer.compareTo`: The order of the readable bytes.
* `Buffer.equals`: Equality of the readable bytes.
* `Buffer.hashCode`: A hash of the readable bytes, never zero.
-/

namespace Conduit

namespace Bytes

/-- The number whose bytes are given, most significant first. -/
def bigWord (a b c d : UInt8) : UInt32 :=
  a.toUInt32 <<< 24 ||| b.toUInt32 <<< 16 ||| c.toUInt32 <<< 8 ||| d.toUInt32

/-- The order of two byte strings, four bytes at a time while both have four, then
    one at a time; where one ends first, it is the smaller. -/
def compareWords : Bytes → Bytes → Ordering
  | a₀ :: a₁ :: a₂ :: a₃ :: as, b₀ :: b₁ :: b₂ :: b₃ :: bs =>
    match compare (bigWord a₀ a₁ a₂ a₃) (bigWord b₀ b₁ b₂ b₃) with
    | .eq => compareWords as bs
    | unequal => unequal
  | as, bs => compareRest as bs
where
  /-- The order of two byte strings, one byte at a time. -/
  compareRest : Bytes → Bytes → Ordering
    | [], [] => .eq
    | [], _ :: _ => .lt
    | _ :: _, [] => .gt
    | a :: as, b :: bs =>
      match compare a b with
      | .eq => compareRest as bs
      | unequal => unequal

/-- A polynomial hash: each four bytes are one digit, and each byte left over is one
    digit with its sign. -/
def hashFrom (hash : UInt32) : Bytes → UInt32
  | a :: b :: c :: d :: rest => hashFrom (hash * 31 + bigWord a b c d) rest
  | byte :: rest => hashFrom (hash * 31 + byte.toInt8.toInt32.toUInt32) rest
  | [] => hash

/-- The hash of a byte string, with zero replaced by one, as a signed number. -/
def hashCode (bytes : Bytes) : Int :=
  let hash := hashFrom 1 bytes
  if hash = 0 then 1 else hash.toInt32.toInt

end Bytes

namespace Buffer

/-- The order of the readable bytes. -/
def compareTo (a b : Buffer) (m : Memory) : Ordering :=
  Bytes.compareWords (a.content m) (b.content m)

/-- Both buffers look at memory through windows that start at the same byte, or
    through the same list of regions. -/
def sharesWindow (a b : Buffer) : Bool :=
  match a.regions, b.regions with
  | [r], [s] => r.cell == s.cell && r.offset == s.offset
  | rs, ss => rs == ss

/-- The readable bytes of both buffers are the same. -/
def equals (a b : Buffer) (m : Memory) : Bool :=
  if a.readableBytes ≠ b.readableBytes then false
  else if a.reader = b.reader ∧ a.sharesWindow b then true
  else a.compareTo b m == .eq

/-- A hash of the readable bytes, as a signed number. It is never zero. -/
def hashCode (b : Buffer) (m : Memory) : Int :=
  Bytes.hashCode (b.content m)

end Buffer

end Conduit
