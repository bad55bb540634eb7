import Conduit.Proofs.Buffer.Scans
import Conduit.Proofs.Script.Bounds

/-!
# Scans in a Program

A program may ask anything of the bytes that a scan goes through, and what it answers to
one byte may depend on all bytes before it. It is shown the bytes that it was asked about,
so it can tell where the scan has been. Whatever it has done to its buffers before, no
bounds lead a scan to an index without a byte.

## Theorems

* `run_scans`: What comes of scanning a buffer of a program.
* `run_scans_sampleSought`: The second even byte, sought backwards.
-/

namespace Conduit.Registers

open Buffer

/-- What comes of scanning any buffer of a program. A program that answers from all that it was
    asked so far is shown the bytes at the indices that were visited, up to the one that was
    found, and the scan changes nothing. Whatever the bounds and the question, no scan looks for
    a byte where there is none. -/
theorem run_scans (steps : List BufferStep) {x : String} {b : Buffer}
    (hb : (run {} steps).2.get? x = some b) :
    b.Scans (run {} steps).2.memory ∧ (∀ start stop answer shown,
      let visited := b.scanOrder start stop
      let bytes := b.bytesAt (run {} steps).2.memory visited
      ∃ d seen, Search (remembering answer) [] bytes d seen ∧
        (run {} steps).2.step ⟨x, shown, .inr (.indexWhere start stop answer)⟩ =
          (.scanned (d.bind (visited[·]?)) (bytes.take (d.elim bytes.length (· + 1))),
            (run {} steps).2)) ∧
      ∀ {σ : Type} (ask : Question σ) (s : σ),
        (∀ start stop, (Access.indexOfBy b start stop ask s).run (run {} steps).2.memory =
          (.ok (b.indexOfBy (run {} steps).2.memory start stop ask s),
            (run {} steps).2.memory)) ∧
        (Access.bytesBeforeBy b ask s).run (run {} steps).2.memory =
          (.ok (b.bytesBeforeBy (run {} steps).2.memory ask s), (run {} steps).2.memory) := by
  have hsound := run_sound sound_nil steps
  have hscans := (hsound x b hb).scans
  have hrests := (hsound x b hb).rests
  refine ⟨hscans, fun start stop answer shown => ?_, fun ask s =>
    ⟨fun start stop => hrests.indexOfBy ask start stop s, hrests.bytesBeforeBy ask s⟩⟩
  rcases hscans.between (remembering answer) start stop [] with ⟨d, seen, hsearch, hindex⟩
  refine ⟨d, seen, hsearch, ?_⟩
  -- What the program is shown is what its question has seen.
  rw [step_working hsound hb, work, hindex, ← hsearch.seen]

/-- Three parts laid end to end. -/
def sampleSought : List BufferStep :=
  [⟨"laid", "laid", .inl (.wrapParts .little [[1, 2], [3], [4, 5, 6]])⟩]

/-- The buffer over the three parts. -/
def sampleSoughtOut : Buffer where
  regions := [⟨0, 0, 2⟩, ⟨1, 0, 1⟩, ⟨2, 0, 3⟩]
  order := .little
  writer := 6
  maxCapacity := 6

/-- Backwards, from past the end to after the first byte, the second even byte is sought: it is
    the third one that is asked about, and stands at index 3. -/
theorem run_scans_sampleSought :
    let r := (run {} sampleSought).2
    let secondEven := fun seen : Bytes => 2 ≤ (seen.filter (· % 2 == 0)).length
    ∃ b d, r.get? "laid" = some b ∧ b.scanOrder 9 1 = [5, 4, 3, 2, 1] ∧
      Search (remembering secondEven) [] [6, 5, 4, 3, 2] d [4, 5, 6] ∧
      d.bind ([5, 4, 3, 2, 1][·]?) = some 3 := by
  intro r secondEven
  have hlaid : r.get? "laid" = some sampleSoughtOut := by decide
  rcases (run_scans sampleSought hlaid).1.between (remembering secondEven) 9 1 [] with
    ⟨d, seen, hsearch, hindex⟩
  have hfound : sampleSoughtOut.indexOfBy r.memory 9 1 (remembering secondEven) [] =
      (some 3, [4, 5, 6]) := by decide
  have hboth := Prod.mk.inj (hindex.symm.trans hfound)
  refine ⟨_, d, hlaid, by decide, ?_, hboth.1⟩
  have hbytes : sampleSoughtOut.bytesAt r.memory (sampleSoughtOut.scanOrder 9 1) =
      [6, 5, 4, 3, 2] := by decide
  rw [hboth.2, hbytes] at hsearch
  exact hsearch

end Conduit.Registers
