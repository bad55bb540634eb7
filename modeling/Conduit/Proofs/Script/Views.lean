import Conduit.Proofs.Buffer.Window
import Conduit.Proofs.Script.Bounds

/-!
# Views in a Program

Buffers can be cut and laid end to end in a program as often as one likes, and in any order:
views of views, views of several views, copies of these. The cursors of each stay in order,
and that is all it takes for what can be said of one cut, and of one row of buffers, to hold
of every buffer and every row.

## Theorems

* `run_windows`: What comes of cutting a buffer of a program.
* `run_windows_sampleLaid`: A view within a view.
* `run_joins`: What comes of laying buffers of a program end to end.
* `run_joins_sampleRow`: Three buffers in a row, one of them empty.
-/

namespace Conduit.Registers

open Buffer

/-- What comes of cutting any buffer of a program, and that the program does cut it so, piece by
    piece from where each part of it starts. If more is asked for than can be read, the program
    goes on as if nothing had been asked. -/
theorem run_windows (steps : List BufferStep) {x : String} {b : Buffer}
    (hb : (run {} steps).2.get? x = some b) :
    b.Windows ∧ (∀ length keep shown, b.readableBytes < length →
      (run {} steps).2.step ⟨x, shown, .inr (.readSlice length keep)⟩ =
        (.failed (.range (.unreadable length b.readableBytes)), (run {} steps).2)) ∧
      ∀ index length, let m := (run {} steps).2.memory
        (Access.slice b index length).run m = Procedure.answer m (b.slice index length) ∧
        (Access.decompose b index length).run m = Procedure.answer m (b.decompose index length) ∧
        (Call.readSlice length).run ⟨b, m⟩ =
          Procedure.settle ⟨b, m⟩ ((b.readSlice length).map fun view => (view.1, ⟨view.2, m⟩)) := by
  have hsound := run_sound sound_nil steps
  have hwindows := (hsound x b hb).valid.windows
  have hrests := (hsound x b hb).rests
  refine ⟨hwindows, fun length keep shown hlength => ?_, fun index length =>
    ⟨hrests.slice index length, hrests.decompose index length, hrests.readSlice length⟩⟩
  rw [step_working hsound hb, work, hwindows.short length hlength]
  rfl

/-- Three parts laid end to end. -/
def sampleLaid : List BufferStep :=
  [⟨"laid", "laid", .inl (.wrapParts .little [[1, 2], [3], [4, 5, 6]])⟩]

/-- The buffer over the three parts. -/
def sampleLaidOut : Buffer where
  regions := [⟨0, 0, 2⟩, ⟨1, 0, 1⟩, ⟨2, 0, 3⟩]
  order := .little
  writer := 6
  maxCapacity := 6

/-- A view that begins and ends within a part, and in it a view of the end of the last one. -/
theorem run_windows_sampleLaid :
    let r := (run {} sampleLaid).2
    ∃ b view, r.get? "laid" = some b ∧ b.slice 1 4 = .ok view ∧
      view.place? 3 = b.place? 4 ∧ view.slice 2 2 = b.slice 3 2 := by
  intro r
  have hlaid : r.get? "laid" = some sampleLaidOut := by decide
  rcases (run_windows sampleLaid hlaid).1.within 1 4 (by decide) with ⟨view, hview, hwindow⟩
  exact ⟨_, view, hlaid, hview, hwindow.place 3 (by decide), hwindow.nested 2 2 (by decide)⟩

/-- What comes of laying any buffers of a program end to end. -/
theorem run_joins (steps : List BufferStep) {sources : List Buffer}
    (hsources : ∀ b ∈ sources, ∃ x, (run {} steps).2.get? x = some b) :
    Joins sources (run {} steps).2.memory := by
  refine joins (fun b hb => ?_) (run {} steps).2.memory
  rcases hsources b hb with ⟨x, hx⟩
  exact (run_sound sound_nil steps x b hx).valid

/-- Three parts laid end to end and in part read, a buffer with nothing to read in the other
    byte order, and a flat view. -/
def sampleRow : List BufferStep :=
  sampleLaid ++
    [⟨"laid", "laid", .inr (.skip 1)⟩,
     ⟨"none", "none", .inl (.fixed .big 4)⟩,
     ⟨"view", "view", .inl (.slice "laid" 4 2)⟩]

/-- The flat view. -/
def sampleView : Buffer where
  regions := [⟨2, 1, 2⟩]
  order := .little
  writer := 2
  maxCapacity := 2

/-- The empty buffer has no say in the byte order, and whether the first two are wrapped before
    the third is the same. -/
theorem run_joins_sampleRow :
    let r := (run {} sampleRow).2
    let laid := { sampleLaidOut with reader := 1 }
    let none := { regions := [⟨3, 0, 4⟩], maxCapacity := 4 }
    r.get? "laid" = some laid ∧ r.get? "none" = some none ∧ r.get? "view" = some sampleView ∧
      ∃ w, wrapAll [laid, none, sampleView] = .ok w ∧
        w.content r.memory = [2, 3, 4, 5, 6, 5, 6] ∧
        (Nesting.group [.group [.source laid, .source none], .source sampleView]).wrap =
          .ok w := by
  intro r laid none
  have hlaid : r.get? "laid" = some laid := by decide
  have hnone : r.get? "none" = some none := by decide
  have hview : r.get? "view" = some sampleView := by decide
  have hjoins : Joins [laid, none, sampleView] r.memory := by
    refine run_joins sampleRow fun b hb => ?_
    simp only [List.mem_cons, List.not_mem_nil, or_false] at hb
    rcases hb with rfl | rfl | rfl
    · exact ⟨_, hlaid⟩
    · exact ⟨_, hnone⟩
    · exact ⟨_, hview⟩
  rcases hjoins.wrapped (by decide) with ⟨w, hw, hjoined⟩
  refine ⟨hlaid, hnone, hview, w, hw, hjoined.content.trans (by decide), ?_⟩
  rw [hjoins.grouped [.group [.source laid, .source none], .source sampleView] rfl, hw]

end Conduit.Registers
