import Conduit.Buffer.Access

/-!
# Numbers of Three Bytes

There is no type of numbers of three bytes, so they are kept in words of four. They
are written by leaving a byte of the word out, and read by putting a zero in its
place; the sign is then spread by shifting the word up and down again. All of this
comes to reading and writing a word of three bytes, in either order.

## Theorems

* `extract_ofInt`: A byte that is cut out of a number is the same in any width that has it.
* `lowBytes_ofInt`: The low bytes of a number are its bytes in three.
* `toNat_ofLittleBytes`: A zero past the last digit of a number changes nothing.
* `toNat_ofLowBytes`: What is read without a sign.
* `toInt_ofLowBytes`: What is read with one.
-/

namespace Conduit.Format

/-- A byte that is cut out of a number is the same in any width that has it. -/
theorem extract_ofInt (value : Int) {i : Nat} (hi : i < 3) :
    (BitVec.ofInt 32 value).extractLsb' (8 * i) 8 =
      (BitVec.ofInt 24 value).extractLsb' (8 * i) 8 := by
  apply BitVec.eq_of_toNat_eq
  rw [BitVec.extractLsb'_toNat, BitVec.extractLsb'_toNat, BitVec.toNat_ofInt, BitVec.toNat_ofInt,
    Nat.shiftRight_eq_div_pow, Nat.shiftRight_eq_div_pow]
  -- Both are digits of one remainder, since the smaller modulus divides the larger one.
  have hsmall : (value % ((2 ^ 24 : Nat) : Int)).toNat =
      (value % ((2 ^ 32 : Nat) : Int)).toNat % 2 ^ 24 := by
    omega
  rw [hsmall]
  generalize (value % ((2 ^ 32 : Nat) : Int)).toNat = n
  have hcases : i = 0 ∨ i = 1 ∨ i = 2 := by omega
  rcases hcases with rfl | rfl | rfl <;> omega

/-- The low bytes of a number are its bytes in three. -/
theorem lowBytes_ofInt (order : ByteOrder) (value : Int) :
    lowBytes order (BitVec.ofInt 32 value) = @Word.encode 3 order (BitVec.ofInt 24 value) := by
  have hlittle : @Word.littleBytes 3 (BitVec.ofInt 24 value) =
      (List.range 3).map fun i => UInt8.ofBitVec ((BitVec.ofInt 32 value).extractLsb' (8 * i) 8) :=
    List.map_congr_left fun i hi =>
      congrArg UInt8.ofBitVec (extract_ofInt value (List.mem_range.mp hi)).symm
  cases order with
  | little => rw [Word.encode, hlittle]; rfl
  | big => rw [Word.encode, hlittle]; rfl

variable {bytes : Bytes}

/-- A zero past the last digit of a number changes nothing. -/
theorem toNat_ofLittleBytes (h : bytes.length = 3) :
    (Word.ofLittleBytes 4 (bytes ++ [0])).toNat = (Word.ofLittleBytes 3 bytes).toNat := by
  rcases bytes with _ | ⟨x, _ | ⟨y, _ | ⟨z, _ | ⟨_, rest⟩⟩⟩⟩
  case cons.cons.cons.nil =>
    have hx := x.toNat_lt
    have hy := y.toNat_lt
    have hz := z.toNat_lt
    simp only [Word.ofLittleBytes, BitVec.toNat_ofNat, List.cons_append, List.nil_append,
      List.foldr_cons, List.foldr_nil, UInt8.toNat_zero]
    omega
  all_goals simp at h

/-- What is read from three bytes without a sign. -/
theorem toNat_ofLowBytes (order : ByteOrder) (h : bytes.length = 3) :
    (ofLowBytes order bytes).toNat = (Word.decode 3 order bytes).toNat := by
  cases order with
  | little => exact toNat_ofLittleBytes h
  | big =>
      rw [ofLowBytes, Word.decode, Word.decode, List.reverse_cons]
      exact toNat_ofLittleBytes (by rwa [List.length_reverse])

/-- What is read from three bytes with a sign. -/
theorem toInt_ofLowBytes (order : ByteOrder) (h : bytes.length = 3) :
    ((ofLowBytes order bytes <<< 8).sshiftRight 8).toInt = (Word.decode 3 order bytes).toInt := by
  have hsmall := (Word.decode 3 order bytes).isLt
  rw [BitVec.toInt_sshiftRight, BitVec.toInt_eq_toNat_cond, BitVec.toInt_eq_toNat_cond,
    BitVec.toNat_shiftLeft, toNat_ofLowBytes order h, Nat.shiftLeft_eq, Int.shiftRight_eq_div_pow]
  generalize (Word.decode 3 order bytes).toNat = n at hsmall
  split <;> split <;> omega

end Conduit.Format
