import Conduit.Script.Containers
import Conduit.Proofs.Buffer.Carry
import Conduit.Proofs.Buffer.Queue
import Mathlib.Algebra.BigOperators.Group.Finset.Basic
import Mathlib.Algebra.Order.BigOperators.Group.Finset

/-!
# Containers as Pairs of Queues

What a user of containers may rely on: a container is a queue of bytes and a queue of
messages, and that is all. Its bytes stand somewhere in a buffer that grows, in front of
them stand bytes that were taken, and to be moved they are copied elsewhere and back.
Nothing of this shows in an answer.

It would show if a buffer were full, since bytes that do not fit are dropped. The bytes
that were taken count against that limit until they are cleared away, so how far a buffer
is filled is kept beside the two queues. No answer and neither queue depends on it, and
that it stays within the limit is the one condition on a run. It does if all bytes that
ever come in are few enough, wherever they go.

## Main definitions

* `Queues`: A container as a pair of queues.
* `QueueCall`, `QueueStep`: What a program does to its containers.
* `Container.serve`, `Queues.serve`: A call on a container, and on a pair of queues.
* `Container.Embodies`: A container stands for a pair of queues.

## Theorems

* `Container.pop_eq`, `Container.popAs_eq`: What popping comes to.
* `Container.Embodies.withOrder`, `Container.Embodies.add`, `Container.Embodies.past`: Single
  operations on either side.
* `Container.Embodies.serve`, `Container.Embodies.transferTo`: One call on either side.
* `ContainerBench.get_put`, `ContainerBench.embodies_new`, `ContainerBench.Embodies.put`:
  Containers by name.
* `ContainerBench.Embodies.perform`, `ContainerBench.Embodies.performAll`: Steps of a program.
* `ContainerBench.run_queues`: A run of a program.
* `Queues.Sane.serve`: How far a call fills a buffer.
* `QueueBench.within_new`, `QueueBench.Within.reach_le`, `QueueBench.sum_update`,
  `QueueBench.Within.sum_erase`, `QueueBench.Within.put`, `QueueBench.Within.perform`: How far
  all buffers together are filled.
* `QueueBench.Within.fits`, `QueueBench.fits_of_brought`: Few enough bytes always fit.
* `ContainerBench.run_queues_sampleTraffic`: Traffic between two containers.
-/

namespace Conduit

/-- A container as a pair of queues, and the order in which its bytes form words. -/
structure Queues extends Load where
  order : ByteOrder := .big
  /-- How many bytes have come in since room was last given back, if those count that
      waited then. -/
  reach : Nat := 0

/-- What a program does to one container. -/
inductive QueueCall where
  | make (order : ByteOrder)
  | add (msg : Message)
  | push (msg : Message)
  | pop
  | popAs (kind : MessageKind)
  | drain
  | discardReadBytes
  | clear
  | write (bytes : Bytes)
  | skip (length : Nat)
  /-- A word of `w` bytes, or zero. -/
  | readWord (w : Nat)
  /-- A word of `w` bytes, or a failure. -/
  | tryReadWord (w : Nat)

/-- What a program does to its containers. -/
inductive QueueStep where
  | on (name : String) (call : QueueCall)
  /-- Everything moves from one container to another one. -/
  | transfer (source target : String) (apart : source ≠ target)

/-- What a call on a container answers, and the container afterwards. -/
def Container.serve (c : Container) : QueueCall → ContainerReply × Container
  | .make order => (.done, Container.withOrder order)
  | .add msg => (.done, c.add msg)
  | .push msg => (.done, c.push msg)
  | .pop => (.message c.pop.1, c.pop.2)
  | .popAs kind => (.message (c.popAs kind).1, (c.popAs kind).2)
  | .drain => (.messages c.drain.1, c.drain.2)
  | .discardReadBytes => (.done, c.discardReadBytes)
  | .clear => (.done, c.clear)
  | .write bytes => (.count (c.bytes.write bytes).1, { c with bytes := (c.bytes.write bytes).2 })
  | .skip length => ContainerBench.onBytes c (c.bytes.skip length)
  | .readWord w =>
    (.count (c.bytes.readWord w).1.toNat, { c with bytes := (c.bytes.readWord w).2 })
  | .tryReadWord w =>
    match c.bytes.buffer.tryReadWord c.bytes.memory w with
    | .ok (v, buffer) => (.count v.toNat, { c with bytes := { c.bytes with buffer } })
    | .error cause => (.failed cause, c)

namespace Queues

/-- A pair of queues after the first bytes have been taken. -/
def past (q : Queues) (used : Nat) : Queues := { q with bytes := q.bytes.drop used }

/-- What a call on a pair of queues answers, and the queues afterwards. -/
def serve (q : Queues) : QueueCall → ContainerReply × Queues
  | .make order => (.done, { order })
  | .add msg =>
    (.done, { q with toLoad := q.toLoad.with [msg], reach := q.reach + msg.loose.length })
  | .push msg => (.done, { q with messages := q.messages ++ [msg] })
  | .pop => (.message q.messages.head?, { q with messages := q.messages.tail })
  | .popAs kind =>
    if q.messages.head?.map (·.kind) = some kind then
      (.message q.messages.head?, { q with messages := q.messages.tail })
    else (.message none, q)
  | .drain => (.messages q.messages, { q with messages := [] })
  | .discardReadBytes => (.done, { q with reach := q.bytes.length })
  | .clear => (.done, { order := q.order })
  | .write bytes =>
    (.count bytes.length, { q with bytes := q.bytes ++ bytes, reach := q.reach + bytes.length })
  | .skip length =>
    if length ≤ q.bytes.length then (.done, q.past length)
    else (.failed (.range (.unreadable length q.bytes.length)), q)
  | .readWord w =>
    if w ≤ q.bytes.length then
      (.count (Word.decode w q.order (q.bytes.take w)).toNat, q.past w)
    else (.count 0, q)
  | .tryReadWord w =>
    if w ≤ q.bytes.length then
      (.count (Word.decode w q.order (q.bytes.take w)).toNat, q.past w)
    else (.failed (.range (.unreadable w q.bytes.length)), q)

/-- Everything moves from `q` behind what is in `other`: what is left of `q`, then
    `other`. -/
def transferTo (q other : Queues) : Queues × Queues :=
  ({ order := q.order },
    { other with
      bytes := other.bytes ++ q.bytes
      messages := other.messages ++ q.messages
      reach := other.reach + q.bytes.length })

end Queues

namespace ContainerBench

/-- What a step answers, and the containers afterwards. -/
def perform (w : ContainerBench) : QueueStep → ContainerReply × ContainerBench
  | .on name call => (((w.get name).serve call).1, w.put name ((w.get name).serve call).2)
  | .transfer source target _ => (.done, (w.step source (.transferTo target)).2)

/-- What the steps of a program answer, and the containers afterwards. -/
def performAll (w : ContainerBench) : List QueueStep → List ContainerReply × ContainerBench
  | [] => ([], w)
  | s :: steps =>
    ((w.perform s).1 :: ((w.perform s).2.performAll steps).1, ((w.perform s).2.performAll steps).2)

end ContainerBench

/-- Named pairs of queues. -/
abbrev QueueBench := String → Queues

namespace QueueBench

/-- What a step answers, and the queues afterwards. -/
def perform (q : QueueBench) : QueueStep → ContainerReply × QueueBench
  | .on name call => (((q name).serve call).1, Function.update q name ((q name).serve call).2)
  | .transfer source target _ =>
    (.done, Function.update (Function.update q source ((q source).transferTo (q target)).1)
      target ((q source).transferTo (q target)).2)

/-- What the steps of a program answer, and the queues afterwards. -/
def performAll (q : QueueBench) : List QueueStep → List ContainerReply × QueueBench
  | [] => ([], q)
  | s :: steps =>
    ((q.perform s).1 :: ((q.perform s).2.performAll steps).1, ((q.perform s).2.performAll steps).2)

/-- New containers under every name. -/
def new : QueueBench := fun _ => {}

/-- After every step of a program, no buffer has been filled past its greatest length. -/
def Fits (q : QueueBench) : List QueueStep → Prop
  | [] => True
  | s :: steps =>
    (∀ name, ((q.perform s).2 name).reach ≤ Capacity.defaultMax) ∧ Fits (q.perform s).2 steps

end QueueBench

/-! ### One container -/

theorem Container.pop_eq (c : Container) :
    c.pop = (c.messages.head?, { c with messages := c.messages.tail }) := by
  rcases c with ⟨bytes, msgs⟩
  cases msgs <;> rfl

theorem Container.popAs_eq (c : Container) (kind : MessageKind) :
    c.popAs kind =
      if c.messages.head?.map (·.kind) = some kind then
        (c.messages.head?, { c with messages := c.messages.tail })
      else (none, c) := by
  rcases c with ⟨bytes, msgs⟩
  cases msgs with
  | nil => rfl
  | cons msg msgs =>
      simp only [List.head?_cons, Option.map_some, Option.some_inj]
      rfl

/-- A container stands for a pair of queues. -/
structure Container.Embodies (c : Container) (q : Queues) : Prop where
  bytes : c.bytes.Waiting q.bytes q.reach
  messages : c.messages = q.messages
  order : c.bytes.order = q.order

namespace Container.Embodies

variable {c other : Container} {q q' : Queues}

theorem withOrder (order : ByteOrder) : (Container.withOrder order).Embodies { order } :=
  ⟨(holds_withOrder order).bytes.waiting, rfl, rfl⟩

theorem add (h : c.Embodies q) (msg : Message)
    (hroom : q.reach + msg.loose.length ≤ Capacity.defaultMax) :
    (c.add msg).Embodies
      { q with toLoad := q.toLoad.with [msg], reach := q.reach + msg.loose.length } := by
  rw [Load.with_one]
  have hpush : ∀ msg, (c.push msg).Embodies
      { q with bytes := q.bytes ++ [], messages := q.messages ++ [msg] } := fun msg =>
    ⟨(List.append_nil q.bytes).symm ▸ h.bytes, congrArg (· ++ [msg]) h.messages, h.order⟩
  cases msg with
  | buffer s =>
      rcases h.bytes.drainInto hroom with ⟨s', hdrain, hwaiting, horder⟩
      rw [Container.add, hdrain]
      exact ⟨hwaiting, h.messages.trans (List.append_nil _).symm, horder.trans h.order⟩
  | text _ | u8 _ | u16 _ | u32 _ => exact hpush _

/-- Some of the bytes have been taken. -/
theorem past (h : c.Embodies q) {used : Nat} (hused : used ≤ q.bytes.length) :
    Container.Embodies { c with bytes := c.bytes.past used } (q.past used) :=
  ⟨h.bytes.past hused, h.messages, h.order⟩

/-- A call on a container answers what it answers on a pair of queues, and does to the
    container what it does to the queues. -/
theorem serve (h : c.Embodies q) (call : QueueCall)
    (hroom : (q.serve call).2.reach ≤ Capacity.defaultMax) :
    (c.serve call).1 = (q.serve call).1 ∧ (c.serve call).2.Embodies (q.serve call).2 := by
  cases call with
  | make order => exact ⟨rfl, withOrder order⟩
  | add msg => exact ⟨rfl, h.add msg hroom⟩
  | push msg => exact ⟨rfl, h.bytes, congrArg (· ++ [msg]) h.messages, h.order⟩
  | pop =>
      rw [Container.serve, Container.pop_eq, Queues.serve, h.messages]
      exact ⟨rfl, h.bytes, rfl, h.order⟩
  | popAs kind =>
      rw [Container.serve, Container.popAs_eq, Queues.serve, h.messages]
      by_cases hkind : q.messages.head?.map (·.kind) = some kind
      · rw [if_pos hkind, if_pos hkind]
        exact ⟨rfl, h.bytes, rfl, h.order⟩
      · rw [if_neg hkind, if_neg hkind]
        exact ⟨rfl, h⟩
  | drain => exact ⟨congrArg ContainerReply.messages h.messages, h.bytes, rfl, h.order⟩
  | discardReadBytes =>
      -- The bytes that were taken are cleared away, which gives room and shows in no answer.
      have hdiscard := h.bytes.discardReadBytes
      exact ⟨rfl, hdiscard.1, h.messages, hdiscard.2.trans h.order⟩
  | clear => exact ⟨rfl, h.bytes.clear, rfl, h.order⟩
  | write bytes =>
      rcases h.bytes.write hroom with ⟨s, hwrite, hwaiting, horder⟩
      rw [Container.serve, hwrite]
      exact ⟨rfl, hwaiting, h.messages, horder.trans h.order⟩
  | skip length =>
      rw [Container.serve, Queues.serve, h.bytes.skip]
      by_cases hlength : length ≤ q.bytes.length
      · rw [if_pos hlength, if_pos hlength]
        exact ⟨rfl, h.past hlength⟩
      · rw [if_neg hlength, if_neg hlength]
        exact ⟨rfl, h⟩
  | readWord w =>
      rw [Container.serve, Queues.serve, h.bytes.readWord, h.order]
      by_cases hw : w ≤ q.bytes.length
      · rw [if_pos hw, if_pos hw]
        exact ⟨rfl, h.past hw⟩
      · rw [if_neg hw, if_neg hw]
        exact ⟨congrArg ContainerReply.count BitVec.toNat_zero, h⟩
  | tryReadWord w =>
      rw [Container.serve, Queues.serve, h.bytes.tryReadWord, h.order]
      by_cases hw : w ≤ q.bytes.length
      · rw [if_pos hw, if_pos hw]
        exact ⟨rfl, h.past hw⟩
      · rw [if_neg hw, if_neg hw]
        exact ⟨rfl, h⟩

/-- Everything moves, and the buffer that it was in starts over. -/
theorem transferTo (h : c.Embodies q) (h' : other.Embodies q')
    (hroom : (q.transferTo q').2.reach ≤ Capacity.defaultMax) :
    (c.transferTo other).1.Embodies (q.transferTo q').1 ∧
      (c.transferTo other).2.Embodies (q.transferTo q').2 := by
  have hcontent := h.bytes.content
  change q'.reach + q.bytes.length ≤ _ at hroom
  rw [← hcontent] at hroom
  rcases h'.bytes.drainInto hroom with ⟨s, hdrain, hwaiting, horder⟩
  have hall := h.bytes.past (Nat.le_of_eq (congrArg List.length hcontent))
  rw [hcontent, List.drop_length] at hall
  have hdiscard := hall.discardReadBytes
  rw [Container.transferTo, hdrain]
  rw [hcontent] at hwaiting ⊢
  refine ⟨⟨hdiscard.1, rfl, hdiscard.2.trans h.order⟩, hwaiting, ?_, horder.trans h'.order⟩
  rw [h.messages, h'.messages]
  rfl

end Container.Embodies

/-! ### Programs of calls -/

namespace ContainerBench

theorem get_put (w : ContainerBench) (name other : String) (c : Container) :
    (w.put name c).get other = if other = name then c else w.get other := by
  rw [get, put, List.lookup_cons]
  by_cases hname : other = name
  · rw [if_pos hname, beq_iff_eq.mpr hname]
    rfl
  · rw [if_neg hname, beq_eq_false_iff_ne.mpr hname, get]
    -- What is filtered out has another name than the one that is looked up.
    have hlookup : (w.filter (·.1 != name)).lookup other = w.lookup other := by
      induction w with
      | nil => rfl
      | cons e w ih =>
          by_cases he : e.1 = name
          · rw [List.filter_cons_of_neg (by simpa using he), ih, List.lookup_cons,
              beq_eq_false_iff_ne.mpr (he ▸ hname)]
          · rw [List.filter_cons_of_pos (by simpa using he), List.lookup_cons, List.lookup_cons, ih]
    rw [hlookup]

/-- Containers stand for pairs of queues, each for the one of its name. -/
def Embodies (w : ContainerBench) (q : QueueBench) : Prop :=
  ∀ name, (w.get name).Embodies (q name)

variable {w : ContainerBench} {q : QueueBench}

theorem embodies_new : Embodies [] QueueBench.new := fun _ => Container.Embodies.withOrder .big

theorem Embodies.put (h : w.Embodies q) (name : String) {c : Container} {queues : Queues}
    (hc : c.Embodies queues) : (w.put name c).Embodies (Function.update q name queues) := by
  intro other
  rw [get_put, Function.update_apply]
  by_cases hname : other = name
  · rw [if_pos hname, if_pos hname]
    exact hc
  · rw [if_neg hname, if_neg hname]
    exact h other

/-- One step of a program, on containers and on queues. -/
theorem Embodies.perform (h : w.Embodies q) (s : QueueStep)
    (hroom : ∀ name, ((q.perform s).2 name).reach ≤ Capacity.defaultMax) :
    (w.perform s).1 = (q.perform s).1 ∧ (w.perform s).2.Embodies (q.perform s).2 := by
  cases s with
  | on name call =>
      have hname : (q.perform (.on name call)).2 name = ((q name).serve call).2 :=
        Function.update_self name _ q
      rcases (h name).serve call (hname ▸ hroom name) with ⟨hreply, hserved⟩
      exact ⟨hreply, h.put name hserved⟩
  | transfer source target apart =>
      have htarget : (q.perform (.transfer source target apart)).2 target =
          ((q source).transferTo (q target)).2 := Function.update_self target _ _
      rcases (h source).transferTo (h target) (htarget ▸ hroom target) with ⟨hleft, hfilled⟩
      exact ⟨rfl, (h.put source hleft).put target hfilled⟩

theorem Embodies.performAll (h : w.Embodies q) {steps : List QueueStep} (hfits : q.Fits steps) :
    (w.performAll steps).1 = (q.performAll steps).1 ∧
      (w.performAll steps).2.Embodies (q.performAll steps).2 := by
  induction steps generalizing w q with
  | nil => exact ⟨rfl, h⟩
  | cons s steps ih =>
      rcases h.perform s hfits.1 with ⟨hreply, hafter⟩
      rcases ih hafter hfits.2 with ⟨hreplies, hlast⟩
      exact ⟨congrArg₂ List.cons hreply hreplies, hlast⟩

/-- A program over any containers answers what it answers over pairs of queues, as long as no
    buffer is full, and its containers stand for these queues at the end. So the bytes and the
    messages that wait in each are those queued under its name, and its writer is where the
    queues say; after everything has been moved out of a container, it is back at the start. -/
theorem run_queues {steps : List QueueStep} (hfits : QueueBench.new.Fits steps) :
    (performAll [] steps).1 = (QueueBench.new.performAll steps).1 ∧
      (performAll [] steps).2.Embodies (QueueBench.new.performAll steps).2 :=
  embodies_new.performAll hfits

end ContainerBench

/-! ### Room

Bytes only come in where they are added or written. To move them from one buffer to another
fills the one as far as it empties the other, so all buffers together are never filled with
more than has come in. -/

namespace Queues

/-- What waits is part of what the buffer has been filled with. -/
def Sane (q : Queues) : Prop := q.bytes.length ≤ q.reach

end Queues

/-- How many bytes a call brings in. -/
def QueueCall.brought : QueueCall → Nat
  | .add msg => msg.loose.length
  | .write bytes => bytes.length
  | _ => 0

/-- How many bytes a program brings in. -/
def QueueStep.brought : List QueueStep → Nat
  | [] => 0
  | .on _ call :: steps => call.brought + brought steps
  | .transfer _ _ _ :: steps => brought steps

theorem Queues.Sane.serve {q : Queues} (h : q.Sane) (call : QueueCall) :
    (q.serve call).2.Sane ∧ (q.serve call).2.reach ≤ q.reach + call.brought := by
  have hpast : ∀ used, (q.past used).Sane ∧ (q.past used).reach ≤ q.reach + 0 := fun used =>
    ⟨(List.drop_sublist used q.bytes).length_le.trans h, Nat.le_refl _⟩
  cases call with
  | make _ | clear => exact ⟨Nat.le_refl 0, Nat.zero_le _⟩
  | push _ | pop | drain => exact ⟨h, Nat.le_refl _⟩
  | add msg =>
      refine ⟨?_, Nat.le_refl _⟩
      change (q.toLoad.with [msg]).bytes.length ≤ q.reach + msg.loose.length
      rw [Load.with_one, List.length_append]
      exact Nat.add_le_add_right h _
  | write bytes =>
      refine ⟨?_, Nat.le_refl _⟩
      change (q.bytes ++ bytes).length ≤ q.reach + bytes.length
      rw [List.length_append]
      exact Nat.add_le_add_right h _
  | discardReadBytes => exact ⟨Nat.le_refl _, h⟩
  | popAs kind =>
      rw [Queues.serve]
      split <;> exact ⟨h, Nat.le_refl _⟩
  | skip used | readWord used | tryReadWord used =>
      rw [Queues.serve]
      split
      · exact hpast used
      · exact ⟨h, Nat.le_refl _⟩

namespace QueueBench

/-- All buffers together are filled with at most `total` bytes. -/
structure Within (q : QueueBench) (total : Nat) : Prop where
  sane : ∀ name, (q name).Sane
  reach : ∀ names : Finset String, ∑ name ∈ names, (q name).reach ≤ total

variable {q : QueueBench} {total : Nat}

theorem within_new : new.Within 0 :=
  ⟨fun _ => Nat.le_refl 0, fun _ => Nat.le_of_eq Finset.sum_const_zero⟩

theorem Within.reach_le (h : q.Within total) (name : String) : (q name).reach ≤ total :=
  Finset.sum_singleton (fun name => (q name).reach) name ▸ h.reach {name}

/-- One buffer and all others. -/
theorem sum_update (q : QueueBench) (name : String) (queues : Queues) (names : Finset String) :
    ∑ other ∈ names, (Function.update q name queues other).reach ≤
      queues.reach + ∑ other ∈ names.erase name, (q other).reach := by
  -- The set may or may not have the name, so the sum is taken with it in either case.
  have hothers : ∑ other ∈ names.erase name, (Function.update q name queues other).reach =
      ∑ other ∈ names.erase name, (q other).reach :=
    Finset.sum_congr rfl fun other hother => by
      rw [Function.update_of_ne (Finset.ne_of_mem_erase hother)]
  have hself : (Function.update q name queues name).reach = queues.reach :=
    congrArg Queues.reach (Function.update_self name queues q)
  calc ∑ other ∈ names, (Function.update q name queues other).reach
      ≤ ∑ other ∈ insert name (names.erase name), (Function.update q name queues other).reach :=
        Finset.sum_le_sum_of_subset fun other hother => by
          rw [Finset.mem_insert, Finset.mem_erase]
          exact (Classical.em (other = name)).imp_right fun hne => ⟨hne, hother⟩
    _ = queues.reach + ∑ other ∈ names.erase name, (q other).reach := by
        rw [Finset.sum_insert (Finset.notMem_erase name names), hself, hothers]

theorem Within.sum_erase (h : q.Within total) (name : String) (names : Finset String) :
    (q name).reach + ∑ other ∈ names.erase name, (q other).reach ≤ total :=
  Finset.sum_insert (f := fun other => (q other).reach) (Finset.notMem_erase name names) ▸
    h.reach (insert name (names.erase name))

theorem Within.put (h : q.Within total) (name : String) {queues : Queues} {more : Nat}
    (hsane : queues.Sane) (hreach : queues.reach ≤ (q name).reach + more) :
    Within (Function.update q name queues) (total + more) := by
  refine ⟨fun other => ?_, fun names => (sum_update q name queues names).trans ?_⟩
  · rw [Function.update_apply]
    split
    · exact hsane
    · exact h.sane other
  · have hrest := h.sum_erase name names
    omega

theorem Within.perform (h : q.Within total) (s : QueueStep) :
    (q.perform s).2.Within (total + QueueStep.brought [s]) := by
  cases s with
  | on name call =>
      rcases (h.sane name).serve call with ⟨hsane, hreach⟩
      exact h.put name hsane hreach
  | transfer source target apart =>
      refine ⟨fun other => ?_, fun names => ?_⟩
      · change (Function.update (Function.update q source _) target _ other).Sane
        rw [Function.update_apply]
        split
        · change (_ ++ _ : Bytes).length ≤ (q target).reach + (q source).bytes.length
          rw [List.length_append]
          exact Nat.add_le_add_right (h.sane target) _
        · rw [Function.update_apply]
          split
          · exact Nat.le_refl 0
          · exact h.sane other
      · -- What the one gains the other gives away, so the two are taken out of the sum.
        have hfilled := sum_update (Function.update q source ((q source).transferTo (q target)).1)
          target ((q source).transferTo (q target)).2 names
        have hleft := sum_update q source ((q source).transferTo (q target)).1 (names.erase target)
        obtain ⟨others, hothers⟩ : ∃ others, others = (names.erase target).erase source := ⟨_, rfl⟩
        have hsource : source ∉ others := hothers ▸ Finset.notMem_erase source _
        have htarget : target ∉ insert source others := by
          rw [hothers, Finset.mem_insert, Finset.mem_erase, Finset.mem_erase]
          exact fun hmem => hmem.elim (Ne.symm apart) fun hmem => hmem.2.1 rfl
        have hall := h.reach (insert target (insert source others))
        rw [Finset.sum_insert htarget, Finset.sum_insert hsource] at hall
        rw [← hothers] at hleft
        have hsane : (q source).bytes.length ≤ (q source).reach := h.sane source
        change _ ≤ (q target).reach + (q source).bytes.length + _ at hfilled
        change _ ≤ 0 + _ at hleft
        change ∑ other ∈ names, (Function.update (Function.update q source _) target _ other).reach
          ≤ total + 0
        omega

theorem Within.fits (h : q.Within total) {steps : List QueueStep}
    (hroom : total + QueueStep.brought steps ≤ Capacity.defaultMax) : q.Fits steps := by
  induction steps generalizing q total with
  | nil => exact trivial
  | cons s steps ih =>
      have hbrought : QueueStep.brought (s :: steps) =
          QueueStep.brought [s] + QueueStep.brought steps := by
        cases s with
        | on name call => rfl
        | transfer source target apart => exact (Nat.zero_add _).symm
      have hafter := h.perform s
      rw [hbrought, ← Nat.add_assoc] at hroom
      exact ⟨fun name => (hafter.reach_le name).trans ((Nat.le_add_right _ _).trans hroom),
        ih hafter hroom⟩

/-- No buffer is ever full if all that a program brings in would fit into one. -/
theorem fits_of_brought {steps : List QueueStep}
    (h : QueueStep.brought steps ≤ Capacity.defaultMax) : new.Fits steps :=
  within_new.fits ((Nat.zero_add _).symm ▸ h)

end QueueBench

/-- One container is read from before its rest is moved behind what is in another one. -/
def sampleTraffic : List QueueStep :=
  [.on "near" (.make .little), .on "near" (.write [1, 2, 3]), .on "near" (.readWord 2),
    .on "near" (.push (.u8 7)), .on "far" (.add (.buffer (Sealed.wrap .big [9]))),
    .on "far" (.popAs .u8), .transfer "near" "far" (by decide), .on "far" (.popAs .text),
    .on "far" (.popAs .u8), .on "far" (.tryReadWord 4), .on "far" (.tryReadWord 2)]

theorem ContainerBench.run_queues_sampleTraffic :
    (performAll [] sampleTraffic).1 =
        [.done, .count 3, .count 0x0201, .done, .done, .message none, .done, .message none,
          .message (some (.u8 7)), .failed (.range (.unreadable 4 2)), .count 0x0903] ∧
      ((performAll [] sampleTraffic).2.get "near").Embodies { order := .little } ∧
      ((performAll [] sampleTraffic).2.get "far").Embodies { reach := 2 } := by
  have hfits : QueueBench.new.Fits sampleTraffic := QueueBench.fits_of_brought (by decide +kernel)
  rcases run_queues hfits with ⟨hreplies, hlast⟩
  exact ⟨hreplies.trans rfl, hlast "near", hlast "far"⟩

end Conduit
