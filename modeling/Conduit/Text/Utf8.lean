import Conduit.Error

/-!
# UTF-8

Text as bytes and back. Bytes that are text become that text; for bytes that are
not, the question is where they stop being text and how much of them is to
blame. `Utf8.tokens` answers it by taking a byte string apart into characters
and malformed pieces. A malformed piece is as long as it can be while some
character still starts with it, and at least one byte long, so a byte that ends
one piece is looked at again as the possible start of the next.

Decoding with replacement writes one replacement character for each piece.

## Main definitions

* `Utf8.encode`: The bytes of a text.
* `Utf8.decode`: The text of a byte string, or the first fault in it.
* `Utf8.decodeLossy`: The text of a byte string, with malformed pieces replaced.
* `Utf8.tokens`: A byte string as characters and malformed pieces.

## Theorems

* `decode_encode`: A text is what its bytes are decoded to.
-/

namespace Conduit.Utf8

/-- A character that has begun: how many bytes it still needs, between which bounds
    the next one lies, the code point so far, and how many bytes were seen. -/
structure Partial where
  owed : Nat
  low : UInt8 := 0x80
  high : UInt8 := 0xbf
  code : Nat
  seen : Nat := 1
  deriving DecidableEq, Repr

/-- A piece of a byte string. -/
inductive Token where
  /-- A character of so many bytes. -/
  | char (c : Char) (length : Nat)
  /-- So many bytes with which no character goes on. -/
  | malformed (length : Nat)
  /-- So many bytes of a character that the string ends within. -/
  | truncated (length : Nat)
  deriving DecidableEq, Repr

/-- What a byte from `0x80` on starts, if it starts anything. The bounds for the byte
    after it leave out overlong forms, surrogates, and what lies past the last code
    point. -/
def lead (b : UInt8) : Option Partial :=
  if 0xc2 ≤ b ∧ b ≤ 0xdf then some { owed := 1, code := b.toNat - 0xc0 }
  else if b = 0xe0 then some { owed := 2, low := 0xa0, code := 0 }
  else if b = 0xed then some { owed := 2, high := 0x9f, code := 0xd }
  else if 0xe1 ≤ b ∧ b ≤ 0xef then some { owed := 2, code := b.toNat - 0xe0 }
  else if b = 0xf0 then some { owed := 3, low := 0x90, code := 0 }
  else if b = 0xf4 then some { owed := 3, high := 0x8f, code := 4 }
  else if 0xf1 ≤ b ∧ b ≤ 0xf3 then some { owed := 3, code := b.toNat - 0xf0 }
  else none

/-- What has been taken apart so far, and the character that has begun. -/
structure Progress where
  tokens : Array Token := #[]
  begun : Option Partial := none

/-- One byte between characters. -/
def Progress.start (p : Progress) (b : UInt8) : Progress :=
  if b < 0x80 then ⟨p.tokens.push (.char (Char.ofNat b.toNat) 1), none⟩
  else
    match lead b with
    | some begun => ⟨p.tokens, some begun⟩
    | none => ⟨p.tokens.push (.malformed 1), none⟩

/-- One byte. -/
def Progress.step (p : Progress) (b : UInt8) : Progress :=
  match p.begun with
  | none => p.start b
  | some c =>
    if c.low ≤ b ∧ b ≤ c.high then
      let code := c.code * 64 + (b.toNat - 0x80)
      if c.owed ≤ 1 then ⟨p.tokens.push (.char (Char.ofNat code) (c.seen + 1)), none⟩
      else ⟨p.tokens, some { owed := c.owed - 1, code := code, seen := c.seen + 1 }⟩
    else Progress.start ⟨p.tokens.push (.malformed c.seen), none⟩ b

/-- The end of the string. -/
def Progress.finish (p : Progress) : Array Token :=
  match p.begun with
  | none => p.tokens
  | some c => p.tokens.push (.truncated c.seen)

/-- A byte string as characters and malformed pieces. -/
def tokens (bytes : List UInt8) : List Token :=
  (bytes.foldl Progress.step {}).finish.toList

/-- The first piece that is no character, when `index` bytes stand before the tokens. -/
def firstFault (index : Nat) : List Token → Option Utf8Fault
  | [] => none
  | .char _ length :: rest => firstFault (index + length) rest
  | .malformed length :: _ => some ⟨index, some length⟩
  | .truncated _ :: _ => some ⟨index, none⟩

/-- What stands for a malformed piece. -/
def replacement : Char := Char.ofNat 0xfffd

/-- A token as it stands in text. -/
def Token.shown : Token → Char
  | char c _ => c
  | malformed _ | truncated _ => replacement

/-- The text of a byte string, with a replacement character for each malformed piece. -/
def decodeLossy (bytes : List UInt8) : String :=
  String.ofList ((tokens bytes).map Token.shown)

/-- The bytes of a text. -/
def encode (text : String) : List UInt8 :=
  text.toByteArray.data.toList

/-- The text of a byte string, or the first fault in it. -/
def decode (bytes : List UInt8) : Except Utf8Fault String :=
  match String.fromUTF8? ⟨bytes.toArray⟩ with
  | some text => .ok text
  | none => .error ((firstFault 0 (tokens bytes)).getD ⟨0, none⟩)

/-- Decoding gives back what was encoded. -/
@[simp] theorem decode_encode (text : String) : decode (encode text) = .ok text := by
  have h : String.fromUTF8? ⟨(encode text).toArray⟩ = some text := by
    have hv : (ByteArray.mk (encode text).toArray) = text.toByteArray := by
      simp [encode]
    rw [hv, String.fromUTF8?, dif_pos text.isValidUTF8]
    rfl
  simp [decode, h]

end Conduit.Utf8
