import Conduit.Proofs.Script.Parallel

/-!
# What Every Step Keeps

Programs from the empty machine, whatever they make and do. After each step every
buffer has its cursors in order and its regions in their cells. No step ends with a
fault: whatever it is asked for, it either fails with an error or looks for bytes where
there are some. It writes to the buffer it works on and to none of the bytes beside it,
and what it answers depends on the bytes of the buffers it names alone. If it refuses,
nothing has changed, though it could have changed what it liked on the way.

## Main definitions

* `Registers.Safe`: What one step keeps.

## Theorems

* `Sound.alike`: A machine looks at no bytes but those of its buffers.
* `Sound.founded`: No step ends with a fault.
* `run_safe`: Every step of every program is safe.
-/

namespace Conduit.Registers

open Region List

variable {r : Registers}

/-- What one step keeps. -/
structure Safe (r : Registers) (s : BufferStep) : Prop where
  /-- The cursors of every buffer are in order, within its capacity, and that is within its
      ceiling. -/
  valid : ∀ name b, (r.step s).2.get? name = some b → b.Valid
  /-- No region reaches past its cell. -/
  fits : ∀ name b, (r.step s).2.get? name = some b →
    ∀ x ∈ b.regions, x.Fits (r.step s).2.memory
  /-- No byte is looked for outside the storage of its buffer, and no size falls below zero. -/
  founded : ∀ fault, ((exec s).run r).1 ≠ .error (.faulted fault)
  /-- Of the bytes that are there, only those of the buffer that is worked on are written. -/
  writes : r.memory.Becomes (r.target s) (r.step s).2.memory
  /-- Only bytes of the buffers that the step names are read: whatever the others are, it
      answers and shows the same. -/
  reads : ∀ m : Memory,
    (∀ name b, name ∈ s.reads → r.get? name = some b →
      ∀ a ∈ addresses b.regions, m.byte? a = r.memory.byte? a) →
    (step { r with memory := m } s).1 = (r.step s).1 ∧
      (step { r with memory := m } s).2.snapshot? s.shown = (r.step s).2.snapshot? s.shown
  /-- A step that says that nothing was done leaves every buffer and every byte as it was. -/
  atomic : (r.step s).1.Refuses → (r.step s).2 = r

/-- A machine is like itself on any memory that has the same bytes where its buffers are. -/
theorem Sound.alike (hr : r.Sound) (cut : Prop) (N : String → Prop) {m : Memory}
    (hm : ∀ name b, N name → r.get? name = some b →
      ∀ a ∈ addresses b.regions, m.byte? a = r.memory.byte? a) :
    Alike cut N r { r with memory := m } := by
  refine ⟨fun a a' => a = a' ∧ ∃ name b, N name ∧ r.get? name = some b ∧
    a ∈ addresses b.regions, ⟨⟨?_, ?_⟩, ?_⟩, ?_⟩
  · rintro a a' b ⟨rfl, -⟩ ⟨rfl, -⟩
    rfl
  · rintro a b b' ⟨rfl, -⟩ ⟨rfl, -⟩
    rfl
  · rintro a a' ⟨rfl, name, b, hname, hb, ha⟩
    -- Each address is paired with itself, so both sides have to have the same byte there.
    have hthere := Memory.byte?_of_fits (hr name b hb).fits ha
    rcases Option.isSome_iff_exists.mp hthere with ⟨byte, hbyte⟩
    exact ⟨byte, hbyte, (hm name b hname hb a ha).trans hbyte⟩
  · intro name hname
    change Option.Rel _ (r.get? name) (r.get? name)
    cases hb : r.get? name with
    | none => exact Option.Rel.none
    | some b =>
        have hlaid : Laid cut (fun a a' => a = a' ∧ ∃ name b, N name ∧ r.get? name = some b ∧
            a ∈ addresses b.regions) b.regions b.regions :=
          ⟨List.forall₂_same.mpr fun a ha => ⟨rfl, name, b, hname, hb, ha⟩, fun _ => rfl⟩
        exact Option.Rel.some (.mk hlaid)

/-- No step on a sound machine ends with a fault. -/
theorem Sound.founded (hr : r.Sound) (s : BufferStep) (fault : Fault) :
    ((exec s).run r).1 ≠ .error (.faulted fault) := by
  rw [exec_eq (hr.ready s)]
  cases r.outline s with
  | error cause => exact fun h => nomatch h
  | ok result => exact fun h => nomatch h

/-- Every step of every program keeps what steps keep. -/
theorem run_safe (steps : List BufferStep) (s : BufferStep) :
    Safe (run {} steps).2 s := by
  have hr := run_sound sound_nil steps
  have hkept := step_kept hr s
  refine ⟨fun name b hb => (hkept.sound name b hb).valid,
    fun name b hb => (hkept.sound name b hb).fits, hr.founded s, hkept.becomes,
    fun m hm => ?_, hkept.atomic⟩
  -- The same buffers, cut in the same places, on memories that agree where they are.
  have htwin := step_twin hr (hr.alike True (· ∈ s.reads) hm) s (fun _ h => h) (Or.inl trivial)
  exact ⟨htwin.1.2 trivial, (htwin.2.shown s.shown List.mem_cons_self).2 trivial⟩

end Conduit.Registers
