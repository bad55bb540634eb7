import Conduit.Proofs.Buffer.Compaction
import Conduit.Proofs.Script.Bounds

/-!
# Compaction in a Program

However a buffer has come about, and wherever its cursors and marks stand, its readable
bytes can be moved to the front. Programs can lay buffers over any views, so they can lay
one over the same bytes twice, and then there is a program in which the bytes that are
read afterwards are not those that could be read before.

## Theorems

* `run_compacted`: What compaction makes of a buffer of a program.
* `run_compacted_sampleOverlap`: Two bytes that are moved to one address.
* `overlap_overwritten`: A program in which it does not keep the content.
-/

namespace Conduit.Registers

/-- What moving the readable bytes to the front makes of any buffer of a program, be it in place
    or by way of a copy. -/
theorem run_compacted (steps : List BufferStep) {x : String} {b : Buffer}
    (hb : (run {} steps).2.get? x = some b) :
    b.Compacted (run {} steps).2.memory
      (b.discardReadBytes (run {} steps).2.memory).1
      (b.discardReadBytes (run {} steps).2.memory).2 ∧
    ∀ shown, (run {} steps).2.step ⟨x, shown, .inr .discardReadBytes⟩ =
      (run {} steps).2.after x .done (b.discardReadBytes (run {} steps).2.memory).1
        (b.discardReadBytes (run {} steps).2.memory).2 :=
  have hr := run_sound sound_nil steps
  ⟨(hr x b hb).compacted, fun _ => step_working hr hb .discardReadBytes⟩

/-- Two bytes, the first of them once more in front of both, and one byte read. -/
def sampleOverlap : List BufferStep :=
  [⟨"f", "f", .inl (.wrap .big [0x61, 0x62])⟩,
   ⟨"p", "p", .inl (.slice "f" 0 1)⟩,
   ⟨"w", "w", .inl (.wrapAll ["p", "f"])⟩,
   ⟨"w", "w", .inr (.skip 1)⟩]

/-- The buffer that is left, over a region and the first byte of it. -/
def sampleOverlaid : Buffer where
  regions := [⟨0, 0, 1⟩, ⟨0, 0, 2⟩]
  reader := 1
  writer := 3
  maxCapacity := 3

/-- Both bytes that are moved go to the same address, where the second one stays. -/
theorem run_compacted_sampleOverlap :
    let r := (run {} sampleOverlap).2
    ∃ b, r.get? "w" = some b ∧
      ((b.discardReadBytes r.memory).1.content (b.discardReadBytes r.memory).2)[0]? =
        (b.content r.memory)[1]? := by
  intro r
  have hw : r.get? "w" = some sampleOverlaid := by decide
  refine ⟨_, hw, (run_compacted sampleOverlap hw).1.last 0 1 (by decide) (by decide) (by decide) ?_⟩
  intro k hlow hhigh
  exact absurd hhigh (Nat.not_lt_of_le hlow)

/-- The content is not kept. -/
theorem overlap_overwritten :
    let r := (run {} sampleOverlap).2
    ∃ b, r.get? "w" = some b ∧ b.content r.memory = [0x61, 0x62] ∧
      (b.discardReadBytes r.memory).1.content (b.discardReadBytes r.memory).2 =
        [0x62, 0x62] := by
  intro r
  have hw : r.get? "w" = some sampleOverlaid := by decide
  exact ⟨_, hw, by decide, by decide⟩

end Conduit.Registers
