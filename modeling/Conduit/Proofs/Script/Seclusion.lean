import Conduit.Proofs.Script.Sharing

/-!
# A Buffer Left Alone

A buffer in a cell that nobody else looks at, and a program that does not touch it. The
program may do anything else to any buffer, grow and make others, and even copy this one.
What it may not do is work on the buffer or drain it, store another one under its name, or
make a view of it. Then the buffer is what it was, with all its bytes.

That a step names a buffer is not all there is to it. A step may store buffers under names
that only its answer tells, so whether a program leaves a buffer alone is seen as it runs.

## Main definitions

* `BufferStep.Avoids`, `Registers.Avoids`: A step, and a program, leave a buffer alone.

## Theorems

* `apart_of_fresh`: A buffer in new cells is apart from all that were there.
* `showTaken_apart`: So is one that has been taken off another.
* `heirs_of_avoids`: A line that nothing is made a view of.
* `step_avoids`: What a step does that leaves a buffer alone.
* `run_avoids`: So does a program.
-/

namespace Conduit

open Region

/-- A step leaves a buffer alone. -/
structure BufferStep.Avoids (s : BufferStep) (x : String) (reply : BufferReply) : Prop where
  register : s.register ≠ x
  drains : s.act ≠ .inr (.drainFrom x)
  draws : x ∉ s.draws
  brings : x ∉ s.brings reply

namespace Registers

variable {r r' : Registers} {s : BufferStep} {x : String} {b : Buffer}

/-- A program leaves a buffer alone. -/
def Avoids (r : Registers) (x : String) : List BufferStep → Prop
  | [] => True
  | s :: steps => s.Avoids x (r.step s).1 ∧ (r.step s).2.Avoids x steps

/-- A buffer that looks at new cells only is apart from all that were there before. -/
theorem apart_of_fresh (hr : r.Sound) (hb : r'.get? x = some b)
    (hfresh : ∀ a ∈ addresses b.regions, r.memory.cells.size ≤ a.1)
    (hothers : ∀ name, name ≠ x → (r'.get? name).map (·.regions) = (r.get? name).map (·.regions)) :
    r'.Apart x [x] := by
  intro name hname c b' hc hb' a ha ha'
  have hsame := hothers name fun h => hname (List.mem_singleton.mpr h)
  rw [hc, Option.map_some] at hsame
  rcases Option.map_eq_some_iff.mp hsame.symm with ⟨c₀, hc₀, hregions⟩
  rw [Option.some.inj (hb'.symm.trans hb)] at ha'
  exact absurd (hr.there hc₀ (hregions ▸ ha)) (Nat.not_lt_of_le (hfresh a ha'))

/-- A buffer in new cells that was taken off another one, and is kept under a name. -/
theorem showTaken_apart {name : String} {taken rest : Buffer} {m : Memory} (hr : r.Sound)
    (hb : r.get? name = some b) (hrest : rest.regions = b.regions)
    (hfresh : Fresh r.memory (taken, m)) :
    (r.showTaken name taken rest m (some x)).2.get? x = some taken ∧
      (r.showTaken name taken rest m (some x)).2.memory = m ∧
      (r.showTaken name taken rest m (some x)).2.Apart x [x] := by
  -- The machine that keeps it is named, since three things are said about it.
  obtain ⟨kept, hkept⟩ : ∃ kept, kept = (r.showTaken name taken rest m (some x)).2 := ⟨_, rfl⟩
  have hget : ∀ other, kept.get? other =
      if other = x then some taken else if other = name then some rest else r.get? other := by
    intro other
    rw [hkept]
    refine (get?_put _ _ _ _).trans ?_
    rw [get?_put]
    rfl
  rw [← hkept]
  have hstored : kept.get? x = some taken := (hget x).trans (if_pos rfl)
  refine ⟨hstored, ?_, apart_of_fresh hr hstored hfresh fun other hother => ?_⟩
  · rw [hkept]
    exact (memory_put _ _ _).trans (memory_put _ _ _)
  · rw [hget, if_neg hother]
    by_cases hname : other = name
    · rw [if_pos hname, hname, hb, Option.map_some, Option.map_some, hrest]
    · rw [if_neg hname]

/-- A line of views that nothing is made a view of goes on with nobody else. -/
theorem heirs_of_avoids {reply : BufferReply} (h : s.Avoids x reply) : s.heirs [x] reply = [x] := by
  have hdraws : ¬ ∃ name ∈ s.draws, name ∈ [x] := by
    rintro ⟨name, hname, hx⟩
    exact h.draws (List.mem_singleton.mp hx ▸ hname)
  rw [BufferStep.heirs, if_neg hdraws, List.filter_cons_of_pos (by simpa using h.brings),
    List.filter_nil]

/-- A buffer that is apart from all others, and is left alone, is what it was. -/
theorem step_avoids (hr : r.Sound) (hb : r.get? x = some b) (hapart : r.Apart x [x])
    (h : s.Avoids x (r.step s).1) :
    (r.step s).2.get? x = some b ∧
      b.content (r.step s).2.memory = b.content r.memory ∧ (r.step s).2.Apart x [x] := by
  refine ⟨?_, ?_, ?_⟩
  · have hsame := (step_effect hr s).others x h.brings (fun _ _ _ _ => h.register.symm)
      fun _ hact => absurd hact h.drains
    exact hsame.trans hb
  · refine (hr x b hb).content_becomes (step_kept hr s).becomes fun a ha => ?_
    -- What may be written to is the buffer that is worked on, if there is one.
    rcases s with ⟨register, shown, making | w⟩
    · exact absurd ha List.not_mem_nil
    · rw [target] at ha
      cases hc : r.get? register with
      | none =>
          rw [hc] at ha
          exact absurd ha List.not_mem_nil
      | some c =>
          rw [hc] at ha
          exact hapart register (fun hx => h.register (List.mem_singleton.mp hx)) c b hc hb a ha
  · have hnext := step_apart hr hapart (List.mem_singleton_self x) h.brings
    rwa [heirs_of_avoids h] at hnext

theorem run_avoids (hr : r.Sound) (hb : r.get? x = some b) (hapart : r.Apart x [x])
    {steps : List BufferStep} (h : r.Avoids x steps) :
    (r.run steps).2.get? x = some b ∧ b.content (r.run steps).2.memory = b.content r.memory := by
  -- That the buffer is apart from all others is carried along.
  induction steps generalizing r with
  | nil => exact ⟨hb, rfl⟩
  | cons s steps ih =>
      rcases step_avoids hr hb hapart h.1 with ⟨hnext, hcontent, hapart'⟩
      rcases ih (step_kept hr s).sound hnext hapart' h.2 with ⟨hlast, hsame⟩
      exact ⟨hlast, hsame.trans hcontent⟩

end Registers

end Conduit
