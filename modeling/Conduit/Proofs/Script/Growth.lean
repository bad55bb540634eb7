import Conduit.Proofs.Buffer.Growth
import Conduit.Proofs.Script.Bounds

/-!
# Growth in a Program

The capacity to grow to is a number that depends on nothing but what is asked for and the
ceiling. Around it stands whatever a program has done before: buffers that look at memory
through several regions, at bytes of others, or at none, and cursors wherever they were
put. Asking for room makes the same of all of them.

## Theorems

* `run_rooms`: What comes of asking a buffer of a program for room.
* `run_rooms_sampleFull`: A full buffer of three bytes is asked for two hundred.
-/

namespace Conduit.Registers

open Buffer

/-- How large buffers become, and what comes of asking any buffer of a program for room. -/
theorem run_rooms (steps : List BufferStep) {x : String} {b : Buffer}
    (hb : (run {} steps).2.get? x = some b) :
    Capacity.Lawful ∧ b.Rooms (run {} steps).2.memory :=
  ⟨Capacity.lawful, (run_sound sound_nil steps x b hb).rooms⟩

/-- Three bytes are written into four, and the first of them is read. -/
def sampleFull : List BufferStep :=
  [⟨"g", "g", .inl (.growable .big 4)⟩,
   ⟨"g", "g", .inr (.write [1, 2, 3])⟩,
   ⟨"g", "g", .inr (.skip 1)⟩]

/-- The buffer that comes of it. -/
def sampleFilled : Buffer where
  regions := [⟨0, 0, 4⟩]
  reader := 1
  writer := 3
  maxCapacity := Capacity.defaultMax

/-- Room for two hundred bytes behind the three is found in two hundred and fifty-six. -/
theorem run_rooms_sampleFull :
    let r := (run {} sampleFull).2
    ∃ b b' m', r.get? "g" = some b ∧ b.ensureWritableBytes r.memory 200 = .ok (b', m') ∧
      b'.capacity = 256 ∧ b'.reader = 1 ∧ b'.writer = 3 ∧ b'.peek m' 0 3 = [1, 2, 3] := by
  intro r
  have hg : r.get? "g" = some sampleFilled := by decide
  rcases (run_rooms sampleFull hg).2.granted 200 (by decide) with ⟨b', m', hprovided, hask, -⟩
  -- The floor of sixty-four is doubled twice.
  have hdoubled : Capacity.doubled 203 Capacity.floor (by decide) = 256 := by
    simp [Capacity.doubled, Capacity.floor]
  have hcapacity : sampleFilled.grownCapacity 203 = 256 := by
    unfold grownCapacity Capacity.grown
    rw [if_neg (by decide), hdoubled]
    decide
  refine ⟨_, b', m', hg, hask, (hprovided.larger (by decide)).2.trans hcapacity, ?_, ?_, ?_⟩
  · exact congrArg Buffer.reader hprovided.cursors
  · exact congrArg Buffer.writer hprovided.cursors
  · exact (hprovided.bytes 0 3 (by decide)).trans (by decide)

end Conduit.Registers
