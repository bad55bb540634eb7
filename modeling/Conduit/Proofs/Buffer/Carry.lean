import Conduit.Proofs.Buffer.Held

/-!
# Containers in a Row

Containers that hand on what they hold from one to the next. The first one has what
came first, so read from there the row is all that was ever put in at the end, in
order, for loose bytes and for messages apart. To move everything from one container
to the one before it leaves the row what it is, and that is why nothing is lost,
doubled or overtaken on the way. Only what is in one container for a while tells
where things are.

All of it has to fit into one buffer, since it may all come together there.

## Main definitions

* `Load`: Loose bytes and messages.
* `Load.with`: A load, and messages put in behind it.
* `Container.Carry`: What a row of containers carries.

## Theorems

* `Load.with_nil`, `Load.with_append`, `Load.with_one`: Putting in no message, several
  in turn, and one.
* `Holds.self`: What is held is itself held.
* `Holds.discardReadBytes`: Nothing has been read that could be discarded.
* `Carry.of_empty`: A row of empty containers.
* `Carry.transfer`: Moving everything to the container before.
* `Holds.put`, `Carry.add`: Putting a message in, into a container and at the end.
-/

namespace Conduit

/-- The loose bytes that a message adds to a container. -/
def Message.loose : Message → Bytes
  | .buffer s => s.content
  | _ => []

/-- The messages that a message adds to a container. -/
def Message.queued : Message → List Message
  | .buffer _ => []
  | msg => [msg]

/-- Loose bytes and messages. -/
@[ext]
structure Load where
  bytes : Bytes := []
  messages : List Message := []

/-- A load, and messages put in behind it. -/
def Load.with (load : Load) (msgs : List Message) : Load where
  bytes := load.bytes ++ msgs.flatMap Message.loose
  messages := load.messages ++ msgs.flatMap Message.queued

theorem Load.with_nil (load : Load) : load.with [] = load := by
  rw [Load.with, List.flatMap_nil, List.flatMap_nil, List.append_nil, List.append_nil]

theorem Load.with_append (load : Load) (msgs more : List Message) :
    load.with (msgs ++ more) = (load.with msgs).with more := by
  simp only [Load.with, List.flatMap_append, List.append_assoc]

theorem Load.with_one (load : Load) (msg : Message) :
    load.with [msg] = ⟨load.bytes ++ msg.loose, load.messages ++ msg.queued⟩ := by
  rw [Load.with, List.flatMap_singleton, List.flatMap_singleton]

namespace Container

/-- A row of containers carries a load: what they hold, one after the other. -/
structure Carry (cs : List Container) (load : Load) : Prop where
  held : ∀ c ∈ cs, c.Holds c.bytes.content c.messages
  bytes : cs.flatMap (·.bytes.content) = load.bytes
  messages : cs.flatMap (·.messages) = load.messages

variable {c : Container} {xs ys : List Container} {load : Load}

/-- What is held is itself held. -/
theorem Holds.self {bytes : Bytes} {msgs : List Message} (h : c.Holds bytes msgs) :
    c.Holds c.bytes.content c.messages := by
  rw [h.bytes.content, h.messages]
  exact h

/-- Of what a container holds nothing has been read, so there is nothing to discard. -/
theorem Holds.discardReadBytes {bytes : Bytes} {msgs : List Message} (h : c.Holds bytes msgs) :
    c.discardReadBytes = c := by
  have hfront : c.bytes.buffer.discardReadBytes c.bytes.memory = (c.bytes.buffer, c.bytes.memory) :=
    if_pos h.bytes.front
  rw [Container.discardReadBytes, Sealed.discardReadBytes, hfront]
  rfl

/-- In a row of empty containers there is nothing. -/
theorem Carry.of_empty (h : ∀ c ∈ xs, c.Holds [] []) : Carry xs {} where
  held := fun c hc => (h c hc).self
  bytes := List.flatMap_eq_nil_iff.mpr fun c hc => (h c hc).bytes.content
  messages := List.flatMap_eq_nil_iff.mpr fun c hc => (h c hc).messages

/-- Everything moves from a container to the one before it, and the row is what it was. -/
theorem Carry.transfer {a b : Container} (h : Carry (xs ++ a :: b :: ys) load)
    (hroom : load.bytes.length ≤ Capacity.defaultMax) :
    Carry (xs ++ (b.transferTo a).2 :: (b.transferTo a).1 :: ys) load := by
  have ha := h.held a (List.mem_append_right xs List.mem_cons_self)
  have hb := h.held b (List.mem_append_right xs (List.mem_cons_of_mem a List.mem_cons_self))
  have hbytes := h.bytes
  have hmessages := h.messages
  rw [List.flatMap_append, List.flatMap_cons, List.flatMap_cons] at hbytes hmessages
  -- Both together are part of the load.
  have hfits : (a.bytes.content ++ b.bytes.content).length ≤ Capacity.defaultMax := by
    have hlen := congrArg List.length hbytes
    simp only [List.length_append] at hlen ⊢
    omega
  rcases hb.transferTo ha hfits with ⟨left, filled, htransfer, hleft, hfilled⟩
  -- What one of the two has lost the other has at its end, so end to end they are the same.
  rw [htransfer]
  refine ⟨fun c hc => ?_, ?_, ?_⟩
  · rcases List.mem_append.mp hc with hc | hc
    · exact h.held c (List.mem_append_left _ hc)
    · rcases List.mem_cons.mp hc with rfl | hc
      · exact hfilled.self
      · rcases List.mem_cons.mp hc with rfl | hc
        · exact hleft.self
        · exact h.held c (List.mem_append_right xs
            (List.mem_cons_of_mem a (List.mem_cons_of_mem b hc)))
  · rw [List.flatMap_append, List.flatMap_cons, List.flatMap_cons, hfilled.bytes.content,
      hleft.bytes.content, ← hbytes]
    simp only [List.nil_append, List.append_assoc]
  · rw [List.flatMap_append, List.flatMap_cons, List.flatMap_cons, hfilled.messages,
      hleft.messages, ← hmessages]
    simp only [List.nil_append, List.append_assoc]

/-- A container that a message is put in. -/
theorem Holds.put {bytes : Bytes} {msgs : List Message} (h : c.Holds bytes msgs) (msg : Message)
    (hroom : (bytes ++ msg.loose).length ≤ Capacity.defaultMax) :
    (c.add msg).Holds (bytes ++ msg.loose) (msgs ++ msg.queued) := by
  -- What is not a buffer is queued, and adds no byte.
  have hpush : ∀ msg, (c.push msg).Holds (bytes ++ []) (msgs ++ [msg]) := fun msg => by
    rw [List.append_nil]
    exact h.pushAll [msg]
  cases msg with
  | buffer s =>
      have hadded := (h.add hroom).1
      rw [Message.queued, List.append_nil]
      exact hadded
  | text _ | u8 _ | u16 _ | u32 _ => exact hpush _

/-- A message that is put in at the end of the row comes behind all else. -/
theorem Carry.add (h : Carry (xs ++ [c]) load) (msg : Message)
    (hroom : (load.with [msg]).bytes.length ≤ Capacity.defaultMax) :
    Carry (xs ++ [c.add msg]) (load.with [msg]) := by
  have hc := h.held c (List.mem_append_right xs List.mem_cons_self)
  have hbytes := h.bytes
  have hmessages := h.messages
  rw [List.flatMap_append, List.flatMap_singleton] at hbytes hmessages
  -- The last container holds a part of the load, so there is room for the message in it.
  have hfits : (c.bytes.content ++ msg.loose).length ≤ Capacity.defaultMax := by
    rw [Load.with_one, ← hbytes] at hroom
    simp only [List.length_append] at hroom ⊢
    omega
  have hadded := hc.put msg hfits
  refine ⟨fun d hd => ?_, ?_, ?_⟩
  · rcases List.mem_append.mp hd with hd | hd
    · exact h.held d (List.mem_append_left _ hd)
    · rw [List.mem_singleton.mp hd]
      exact hadded.self
  · rw [List.flatMap_append, List.flatMap_singleton, hadded.bytes.content, ← List.append_assoc,
      hbytes, Load.with_one]
  · rw [List.flatMap_append, List.flatMap_singleton, hadded.messages, ← List.append_assoc,
      hmessages, Load.with_one]

end Container

end Conduit
