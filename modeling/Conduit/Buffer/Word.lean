import Conduit.Buffer.View

/-!
# Words

Numbers of a fixed width, in the buffer's byte order. A word of `w` bytes is a bit
vector of width `8 * w`; whether it stands for a signed number, an unsigned one
or a floating-point pattern is a matter of how its bits are read, and moves no
byte. Three bytes are a width like any other.

Two ways of reading at the cursor differ only in what they do when too few bytes
are left: `tryReadWord` fails, `readWord` gives zero. Neither moves the cursor
then.

## Main definitions

* `Word.encode`, `Word.decode`: Words as bytes.
* `Buffer.getWord`, `Buffer.setWord`: At an index.
* `Buffer.tryReadWord`, `Buffer.readWord`, `Buffer.writeWord`: At the cursors.
* `Buffer.writeWordAhead`: Before the reader.

## Theorems

* `length_encode`: A word has as many bytes as its width.
* `digit_shift`, `foldr_shift`, `foldr_digit`: The bytes of a number are its digits.
* `littleBytes_ofLittleBytes`: The same without an order.
* `Word.encode_decode`: A word has the bytes that it was read from.
-/

namespace Conduit

/-- A number of `w` bytes. -/
abbrev Word (w : Nat) := BitVec (8 * w)

namespace Word

/-- The bytes of a word, least significant first. -/
def littleBytes {w : Nat} (v : Word w) : Bytes :=
  (List.range w).map fun i => UInt8.ofBitVec (v.extractLsb' (8 * i) 8)

/-- The word whose bytes, least significant first, are those of a list. -/
def ofLittleBytes (w : Nat) (bytes : Bytes) : Word w :=
  BitVec.ofNat (8 * w) (bytes.foldr (fun byte n => byte.toNat + 256 * n) 0)

/-- The bytes of a word in the given order. -/
def encode {w : Nat} (order : ByteOrder) (v : Word w) : Bytes :=
  match order with
  | .little => v.littleBytes
  | .big => v.littleBytes.reverse

/-- The word with the given bytes in the given order. -/
def decode (w : Nat) (order : ByteOrder) (bytes : Bytes) : Word w :=
  match order with
  | .little => ofLittleBytes w bytes
  | .big => ofLittleBytes w bytes.reverse

@[simp] theorem length_encode {w : Nat} (order : ByteOrder) (v : Word w) :
    (encode order v).length = w := by
  cases order <;> simp [encode, littleBytes]

/-! The bytes of a number are its digits. Shifting the number by a byte drops one of them. -/

theorem digit_shift (byte : UInt8) (n : Nat) : (byte.toNat + 256 * n) >>> 8 = n := by
  have hbyte := byte.toNat_lt
  rw [Nat.shiftRight_eq_div_pow]
  omega

theorem foldr_shift (bytes : Bytes) :
    bytes.foldr (fun byte n => byte.toNat + 256 * n) 0 >>> (8 * bytes.length) = 0 := by
  induction bytes with
  | nil => rfl
  | cons byte rest ih =>
      rw [List.foldr_cons, List.length_cons, Nat.mul_succ, Nat.add_comm (8 * rest.length),
        Nat.shiftRight_add, digit_shift, ih]

theorem foldr_digit {bytes : Bytes} {i : Nat} (h : i < bytes.length) :
    bytes.foldr (fun byte n => byte.toNat + 256 * n) 0 >>> (8 * i) % 256 = bytes[i].toNat := by
  induction bytes generalizing i with
  | nil => exact absurd h (Nat.not_lt_zero _)
  | cons byte rest ih =>
      have hbyte := byte.toNat_lt
      cases i with
      | zero =>
          rw [List.foldr_cons, Nat.mul_zero, Nat.shiftRight_zero, List.getElem_cons_zero]
          omega
      | succ i =>
          rw [List.foldr_cons, Nat.mul_succ, Nat.add_comm (8 * i), Nat.shiftRight_add,
            digit_shift, List.getElem_cons_succ, ih (Nat.lt_of_succ_lt_succ h)]

theorem littleBytes_ofLittleBytes (bytes : Bytes) :
    littleBytes (ofLittleBytes bytes.length bytes) = bytes := by
  refine List.ext_getElem (by simp [littleBytes]) fun i hi hi' => ?_
  have hfits : bytes.foldr (fun byte n => byte.toNat + 256 * n) 0 < 2 ^ (8 * bytes.length) := by
    have hshift := foldr_shift bytes
    rw [Nat.shiftRight_eq_div_pow] at hshift
    exact (Nat.div_eq_zero_iff_lt (Nat.two_pow_pos _)).mp hshift
  simp only [littleBytes, List.getElem_map, List.getElem_range]
  rw [← UInt8.toNat_inj, ofLittleBytes]
  change (BitVec.extractLsb' (8 * i) 8 _).toNat = _
  rw [BitVec.extractLsb'_toNat, BitVec.toNat_ofNat, Nat.mod_eq_of_lt hfits]
  exact foldr_digit hi'

/-- A word that has been read is written as the bytes that it was read from. -/
theorem encode_decode (order : ByteOrder) (bytes : Bytes) :
    encode order (decode bytes.length order bytes) = bytes := by
  cases order with
  | little => exact littleBytes_ofLittleBytes bytes
  | big =>
      have h := littleBytes_ofLittleBytes bytes.reverse
      rw [List.length_reverse] at h
      rw [encode, decode, h, List.reverse_reverse]

end Word

namespace Buffer

/-- The word of `w` bytes at `index`. -/
def getWord (b : Buffer) (m : Memory) (w index : Nat) : Except Error (Word w) := do
  let bytes ← b.getBytes m index w
  return Word.decode w b.order bytes

/-- Memory after a word has been written at `index`. -/
def setWord {w : Nat} (b : Buffer) (m : Memory) (index : Nat) (v : Word w) :
    Except Error Memory :=
  b.setBytes m index (Word.encode b.order v)

/-- The next word of `w` bytes, passing over it. -/
def tryReadWord (b : Buffer) (m : Memory) (w : Nat) : Except Error (Word w × Buffer) := do
  b.checkReadable w
  let v ← b.getWord m w b.reader
  return (v, { b with reader := b.reader + w })

/-- The next word of `w` bytes, passing over it; zero, passing over nothing, when
    fewer bytes are left. -/
def readWord (b : Buffer) (m : Memory) (w : Nat) : Word w × Buffer :=
  match b.tryReadWord m w with
  | .ok result => result
  | .error _ => (0, b)

/-- Appends a word, and says how many bytes were written: all of them or none. -/
def writeWord {w : Nat} (b : Buffer) (m : Memory) (v : Word w) : Nat × Buffer × Memory :=
  b.write m (Word.encode b.order v)

/-- Writes a word right before the reader and moves the reader back over it. -/
def writeWordAhead {w : Nat} (b : Buffer) (m : Memory) (v : Word w) :
    Except Error (Buffer × Memory) :=
  b.writeAhead m (Word.encode b.order v)

end Buffer

end Conduit
