/-!
# Hexadecimal

Bytes as text, two lowercase digits each, and numbers with as many digits as they
need.

## Main definitions

* `Hex.encode`: The digits of a byte string.
* `Hex.ofNat`: The digits of a number.
-/

namespace Conduit.Hex

/-- The digit of a number below sixteen. -/
def digit (n : Nat) : Char :=
  if n < 10 then Char.ofNat (n + 48) else Char.ofNat (n + 87)

/-- The two digits of a byte. -/
def byte (b : UInt8) : List Char :=
  [digit (b.toNat / 16), digit (b.toNat % 16)]

/-- The digits of a byte string. -/
def encode (bytes : List UInt8) : String :=
  String.ofList (bytes.flatMap byte)

/-- The digits of a number, without leading zeros. -/
def ofNat (n : Nat) : String :=
  String.ofList (Nat.toDigits 16 n)

end Conduit.Hex
