import Conduit.Rehearsal.Plan

/-!
# Decoders for Rehearsals

Two decoders that show what becomes of each kind of finding. One looks at a
single byte, and some bytes make it fail in different ways. The other one makes
a number of every two bytes, and of a lone byte at the end.

## Main definitions

* `bytewise`, `pairs`: The decoders.
* `HandlerPlan.handler`: The handler of a plan.
-/

namespace Conduit.Rehearsal

/-- What a byte means to `bytewise`: what it makes of it, and whether it reads it. -/
def bytewiseFinding (byte : UInt8) : Finding × Bool :=
  match Char.ofNat byte.toNat with
  | '.' => (.nothing, false)
  | '*' => (.message (.own (.u8 byte)), false)
  | '!' => (.failed (.decode (.other "bad !")), false)
  | '~' => (.panicked (.unknown "bad ~"), false)
  | '#' => (.nothing, true)
  | '?' => (.failed (.decode (.other "bad ?")), true)
  | _ => (.message (.own (.u8 byte)), true)

/-- Passes over some bytes, as far as they are there. -/
def passOver (bytes : Sealed) (length : Nat) : Sealed :=
  match bytes.skip length with
  | .ok rest => rest
  | .error _ => bytes

/-- Makes a message of most bytes, and trouble of some. -/
def bytewise : Decoder Unit where
  typeName := "Bytewise"
  attempt _ _ bytes :=
    match bytes.front 1 with
    | [] => { finding := .nothing, state := (), bytes }
    | byte :: _ =>
      let (finding, reads) := bytewiseFinding byte
      { finding, state := (), bytes := if reads then passOver bytes 1 else bytes }

/-- Makes a number of every two bytes, and of a lone byte at the end. -/
def pairs : Decoder Unit where
  typeName := "Pairs"
  attempt atEnd _ bytes :=
    match bytes.front 2, atEnd with
    | high :: low :: _, _ =>
      { finding := .message (.own (.u16 (high.toUInt16 * 256 + low.toUInt16)))
        state := ()
        bytes := passOver bytes 2 }
    | byte :: _, true =>
      { finding := .message (.own (.u16 byte.toUInt16)), state := (), bytes := passOver bytes 1 }
    | _, _ => { finding := .nothing, state := (), bytes }

/-- The handler of a plan. One that is the rehearsal's own is known by its number. -/
def HandlerPlan.handler (number : Nat) : HandlerPlan → Handler
  | .lines framer => ⟨Decoder.lines.handlerType, Decoder.events, .lines framer⟩
  | .text order => ⟨TextFrame.handlerType, TextFrame.events, .text order⟩
  | .plain events => ⟨"Plain", events, .passive⟩
  | .bytewise => ⟨Rehearsal.bytewise.handlerType, Decoder.events, .custom number⟩
  | .pairs => ⟨Rehearsal.pairs.handlerType, Decoder.events, .custom number⟩
  | .script _ events _ => ⟨"ScriptHandler", events, .custom number⟩

end Conduit.Rehearsal
