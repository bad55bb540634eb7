import Conduit.Error

/-!
# Procedures

What is done step by step to a state, and may end early. A procedure always gives
the state back, also when it ends early: whatever it has changed until then stays
changed, and that a failing operation changes nothing is for a theorem to say.

There are two ways to end early. An operation that does not accept what it is
asked for fails, with an error for its caller. A fault is no answer: it is what
must never happen, a byte that is looked for outside its storage, or a size less
than zero. Nothing stops most of these where the code runs; here they are seen.

## Main definitions

* `Fault`: What must never happen.
* `Halt`: How a procedure ends early.
* `Procedure`: A computation over a state that may end early.
* `Procedure.fail`, `Procedure.fault`: Ending early.
* `Procedure.minus`: A difference of sizes.
* `Procedure.provided`, `Procedure.each`: On a condition, and for every element of a list.

## Theorems

* `run_pure`, `run_state`, `run_alter`, `run_fail`, `run_fault`: What each step comes to.
* `run_bind`: A sequence goes on with what its first part gives, on the state that it leaves.
* `run_pure_bind`, `run_state_bind`, `run_alter_bind`: A sequence that starts with a step.
* `bind_of_ok`, `bind_of_error`: A sequence after its first part is known.
* `minus_of_le`: A difference that is not negative.
-/

namespace Conduit

/-- What must never happen. -/
inductive Fault where
  /-- A difference of sizes is less than zero. -/
  | negative (size taken : Nat)
  /-- A stretch reaches past the window of a region. -/
  | outside (index length window : Nat)
  /-- A stretch reaches past the cell that it lies in. -/
  | astray (start length size : Nat)
  /-- Bytes are looked for in storage that has none. -/
  | vacant (length : Nat)
  /-- A stretch goes on after the last component. -/
  | missing (length : Nat)
  /-- A buffer is laid out with its cursor or its bytes past their limits. -/
  | unfounded (writer length maxCapacity : Nat)
  deriving DecidableEq, Repr, Inhabited

/-- What is said of a fault. -/
def Fault.text : Fault → String
  | negative size taken => s!"attempt to subtract with overflow: {size} - {taken}"
  | outside index length window => s!"index {index}, length {length} in a window of {window}"
  | astray start length size => s!"range {start}..{start + length} out of range for {size}"
  | vacant length => s!"length {length} in empty storage"
  | missing length => s!"length {length} after the last component"
  | unfounded writer length maxCapacity =>
    s!"assertion failed: {writer} <= {length} && {length} <= {maxCapacity}"

/-- How a procedure ends early. -/
inductive Halt where
  /-- With an error for the caller. -/
  | failed (cause : Error)
  /-- With something that must never happen. -/
  | faulted (fault : Fault)
  deriving DecidableEq, Repr, Inhabited

/-- A computation over a state that may end early. The state afterwards is given
    either way. -/
structure Procedure (σ α : Type) where
  run : σ → Except Halt α × σ

namespace Procedure

variable {σ α β γ : Type}

instance : Monad (Procedure σ) where
  pure a := ⟨fun s => (.ok a, s)⟩
  bind p f := ⟨fun s =>
    match p.run s with
    | (.ok a, s) => (f a).run s
    | (.error halt, s) => (.error halt, s)⟩

/-- The state. -/
def state : Procedure σ σ := ⟨fun s => (.ok s, s)⟩

/-- Changes the state. -/
def alter (f : σ → σ) : Procedure σ Unit := ⟨fun s => (.ok (), f s)⟩

/-- Ends with an error for the caller. -/
def fail (cause : Error) : Procedure σ α := ⟨fun s => (.error (.failed cause), s)⟩

/-- Ends with a fault. -/
def fault (found : Fault) : Procedure σ α := ⟨fun s => (.error (.faulted found), s)⟩

/-- The difference of two sizes, which may not be negative. -/
def minus (size taken : Nat) : Procedure σ Nat :=
  if taken ≤ size then pure (size - taken) else fault (.negative size taken)

/-- Does something if a condition holds, and nothing otherwise. -/
def provided (c : Prop) [Decidable c] (p : Procedure σ Unit) : Procedure σ Unit :=
  if c then p else pure ()

/-- Does the same for every element, from the first to the last, and gathers the
    results. -/
def each (f : α → Procedure σ β) : List α → Procedure σ (List β)
  | [] => pure []
  | a :: as => do
    let b ← f a
    let bs ← each f as
    return b :: bs

/-! ### What procedures come to -/

variable {p : Procedure σ α} {f : α → Procedure σ β} {s s' : σ} {a : α} {halt : Halt}

@[simp] theorem run_pure (a : α) (s : σ) : (pure a : Procedure σ α).run s = (.ok a, s) := rfl

@[simp] theorem run_state (s : σ) : state.run s = (.ok s, s) := rfl

@[simp] theorem run_alter (f : σ → σ) (s : σ) : (alter f).run s = (.ok (), f s) := rfl

@[simp] theorem run_fail (cause : Error) (s : σ) :
    (fail cause : Procedure σ α).run s = (.error (.failed cause), s) := rfl

@[simp] theorem run_fault (found : Fault) (s : σ) :
    (fault found : Procedure σ α).run s = (.error (.faulted found), s) := rfl

/-- A sequence goes on with what its first part gives, on the state that it leaves. -/
theorem run_bind (p : Procedure σ α) (f : α → Procedure σ β) (s : σ) :
    (p >>= f).run s =
      match p.run s with
      | (.ok a, s) => (f a).run s
      | (.error halt, s) => (.error halt, s) := rfl

theorem bind_of_ok (h : p.run s = (.ok a, s')) : (p >>= f).run s = (f a).run s' := by
  rw [run_bind, h]

/-- A sequence ends where its first part ends early. -/
theorem bind_of_error (h : p.run s = (.error halt, s')) :
    (p >>= f).run s = (.error halt, s') := by
  rw [run_bind, h]

@[simp] theorem run_pure_bind (a : α) (f : α → Procedure σ β) (s : σ) :
    (pure a >>= f).run s = (f a).run s := rfl

@[simp] theorem run_state_bind (f : σ → Procedure σ β) (s : σ) :
    (state >>= f).run s = (f s).run s := rfl

@[simp] theorem run_alter_bind (g : σ → σ) (f : Unit → Procedure σ β) (s : σ) :
    (alter g >>= f).run s = (f ()).run (g s) := rfl

/-- A difference that is not negative. -/
theorem minus_of_le {size taken : Nat} (h : taken ≤ size) (s : σ) :
    (minus size taken).run s = (.ok (size - taken), s) := by
  rw [minus, if_pos h, run_pure]

end Procedure

end Conduit
