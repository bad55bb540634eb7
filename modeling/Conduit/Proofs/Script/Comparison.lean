import Conduit.Proofs.Buffer.Comparison
import Conduit.Proofs.Script.Bounds

/-!
# Comparing the Buffers of a Program

However two buffers have come about, whether they are flat or laid end to end, whether
they share memory or not, and whatever has been written, grown and moved to the front in
the meantime: a program keeps its buffers in order, and that is all that comparing them
depends on.

## Theorems

* `run_compared`: What comparing two buffers of a program tells.
* `run_compared_sampleViews`: A composite and a view that differ in their last byte.
-/

namespace Conduit.Registers

/-- Comparing any two buffers of a program compares the bytes that can be read, and so does
    comparing their hashes, which are never zero. -/
theorem run_compared (steps : List BufferStep) {x y : String} {a b : Buffer}
    (ha : (run {} steps).2.get? x = some a) (hb : (run {} steps).2.get? y = some b) :
    a.Compared b (run {} steps).2.memory ∧ a.hashCode (run {} steps).2.memory ≠ 0 ∧
      ∀ (c : Buffer) (m : Memory), c.content m = a.content (run {} steps).2.memory →
        c.hashCode m = a.hashCode (run {} steps).2.memory := by
  have hr := run_sound sound_nil steps
  refine ⟨(hr x a ha).compared (hr y b hb), Bytes.hashCode_ne_zero _, fun c m hsame => ?_⟩
  rw [Buffer.hashCode, Buffer.hashCode, hsame]

/-- Two parts laid end to end, and part of a flat buffer in the other byte order. -/
def sampleViews : List BufferStep :=
  [⟨"laid", "laid", .inl (.wrapParts .big [[1, 2], [3, 4, 200]])⟩,
   ⟨"flat", "flat", .inl (.wrap .little [0, 1, 2, 3, 4, 201])⟩,
   ⟨"view", "view", .inl (.slice "flat" 1 5)⟩]

/-- The last byte decides, and it is not taken for a negative one. -/
theorem run_compared_sampleViews :
    let r := (run {} sampleViews).2
    ∃ a b, r.get? "laid" = some a ∧ r.get? "view" = some b ∧
      a.compareTo b r.memory = .lt ∧ a.content r.memory < b.content r.memory ∧
      ¬ a.equals b r.memory := by
  intro r
  have hlaid : r.get? "laid" =
      some { regions := [⟨0, 0, 2⟩, ⟨1, 0, 3⟩], writer := 5, maxCapacity := 5 } := by decide
  have hview : r.get? "view" =
      some { regions := [⟨2, 1, 5⟩], order := .little, writer := 5, maxCapacity := 5 } := by decide
  have hless := (run_compared sampleViews hlaid hview).1
  have horder : Buffer.compareTo
      { regions := [⟨0, 0, 2⟩, ⟨1, 0, 3⟩], writer := 5, maxCapacity := 5 }
      { regions := [⟨2, 1, 5⟩], order := .little, writer := 5, maxCapacity := 5 } r.memory =
        .lt := by decide
  refine ⟨_, _, hlaid, hview, horder, hless.less.mp horder, fun hequal => ?_⟩
  have hsame := hless.same.mpr (hless.equal.mp hequal)
  rw [horder] at hsame
  cases hsame

end Conduit.Registers
