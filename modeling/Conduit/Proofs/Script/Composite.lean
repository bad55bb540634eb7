import Conduit.Proofs.Script.Safety

/-!
# Buffers Laid End to End

A buffer over several parts, each in a cell of its own, and a flat one over the same
bytes in one cell. The first byte of the second part lies in another cell than the last
byte of the first, and nothing but the parts themselves shows it: pairing each byte of
the parts with the byte at the same index of the flat buffer makes the two alike, and
from there on every program goes the same way with both.

## Main definitions

* `Face`: All that a buffer is but for its regions.

## Theorems

* `Alike.face`, `Alike.face?`: All that is seen of a buffer but its regions.
* `addresses_allocAll`: The parts are in new places, no two of them in one.
* `wrapParts_paired`: A buffer over several parts is like a flat one.
* `isComposite_wrapParts`, `isComposite_wrap`: Which of the two is a composite.
* `composite_as_flat`: No program tells them apart but by asking for parts.
* `composite_as_flat_sample`: A word across two parts.
-/

namespace Conduit

open Region List
open Buffer (Paired)

/-- All that a buffer is, but for how its bytes are cut into regions. -/
structure Face where
  reader : Nat
  writer : Nat
  readerMark : Nat
  writerMark : Nat
  capacity : Nat
  maxCapacity : Nat
  order : ByteOrder
  /-- Every byte of the buffer, readable or not. -/
  bytes : Bytes
  deriving DecidableEq, Repr

namespace Buffer

def face (b : Buffer) (m : Memory) : Face where
  reader := b.reader
  writer := b.writer
  readerMark := b.readerMark
  writerMark := b.writerMark
  capacity := b.capacity
  maxCapacity := b.maxCapacity
  order := b.order
  bytes := b.peek m 0 b.capacity

theorem Alike.face {cut : Prop} {R : Pairing} {m n : Memory} {b c : Buffer}
    (h : Alike cut R b c) (hm : m.Mirrors R n) : c.face n = b.face m := by
  simp only [Buffer.face, h.reader, h.writer, h.readerMark, h.writerMark, h.capacity,
    h.maxCapacity, h.order, h.peek hm]

/-- New cells for several parts: their addresses are new, all different, and have the bytes of
    the parts one after the other. -/
theorem addresses_allocAll (m : Memory) (parts : List Bytes) :
    (addresses (allocAll m parts).1).Nodup ∧
      (∀ a ∈ addresses (allocAll m parts).1, m.cells.size ≤ a.1) ∧
      (addresses (allocAll m parts).1).map (allocAll m parts).2.byte? =
        parts.flatten.map some := by
  induction parts generalizing m with
  | nil => exact ⟨List.nodup_nil, fun a ha => absurd ha List.not_mem_nil, rfl⟩
  | cons part parts ih =>
      rcases ih (m.alloc part.toArray).2 with ⟨hnodup, hnew, hbytes⟩
      have hsize : (m.alloc part.toArray).2.cells.size = m.cells.size + 1 := Array.size_push _
      have hfirst : ∀ a ∈ (m.alloc part.toArray).1.places, a.1 = m.cells.size :=
        fun a ha => (mem_places.mp ha).1
      -- Each part takes the next cell, so addresses of different parts differ in their cells.
      have hlater : ∀ a ∈ addresses (allocAll (m.alloc part.toArray).2 parts).1,
          m.cells.size + 1 ≤ a.1 := fun a ha => hsize ▸ hnew a ha
      have hcons : allocAll m (part :: parts) =
          ((m.alloc part.toArray).1 :: (allocAll (m.alloc part.toArray).2 parts).1,
            (allocAll (m.alloc part.toArray).2 parts).2) := rfl
      rw [hcons, addresses_cons]
      refine ⟨List.nodup_append'.mpr ⟨nodup_places _, hnodup, fun a ha ha' => ?_⟩,
        fun a ha => ?_, ?_⟩
      · have hcell := hfirst a ha
        have hcell' := hlater a ha'
        omega
      · rcases List.mem_append.mp ha with ha | ha
        · exact Nat.le_of_eq (hfirst a ha).symm
        · exact Nat.le_trans (Nat.le_succ _) (hlater a ha)
      · -- The later parts leave the cell of the first one as it is.
        have hkept : (m.alloc part.toArray).1.places.map
            (allocAll (m.alloc part.toArray).2 parts).2.byte? =
            (m.alloc part.toArray).1.places.map (m.alloc part.toArray).2.byte? :=
          List.map_congr_left fun a ha =>
            (Made.allocAll (m.alloc part.toArray).2 parts).2.frame a
              (by rw [hsize, hfirst a ha]; exact Nat.lt_succ_self _) List.not_mem_nil
        rw [List.map_append, hkept, map_byte?_alloc, hbytes, List.flatten_cons, List.map_append]

/-- A buffer over several parts is like a flat one over the same bytes. -/
theorem wrapParts_paired {R : Pairing} {m n : Memory} (hm : m.Mirrors R n) (order : ByteOrder)
    {parts : List Bytes} (hparts : parts.flatten ≠ []) :
    Paired False R (wrapParts m order parts) (wrap n order parts.flatten) := by
  rcases addresses_allocAll m (parts.filter (!·.isEmpty)) with ⟨hnodup, hnew, hbytes⟩
  rw [List.flatten_filter_not_isEmpty] at hbytes
  have hflat : (n.alloc parts.flatten.toArray).1.places.map
      (n.alloc parts.flatten.toArray).2.byte? = parts.flatten.map some :=
    map_byte?_alloc n parts.flatten.toArray
  have hmirrors := hm.extend (Made.allocAll m (parts.filter (!·.isEmpty))).2
    (Memory.becomes_alloc [] n parts.flatten.toArray) hnodup (nodup_places _) hnew
    (fun b hb => Nat.le_of_eq (mem_places.mp hb).1.symm) hbytes hflat
  -- Both have the bytes in one order, so their addresses can be paired.
  have hlength : (addresses (allocAll m (parts.filter (!·.isEmpty))).1).length =
      (n.alloc parts.flatten.toArray).1.places.length := by
    have hleft := congrArg List.length hbytes
    have hright := congrArg List.length hflat
    rw [List.length_map] at hleft hright
    exact hleft.trans hright.symm
  have hlaid : Laid False (fun a b => R a b ∨ (a, b) ∈
      (addresses (allocAll m (parts.filter (!·.isEmpty))).1).zip
        (n.alloc parts.flatten.toArray).1.places)
      (allocAll m (parts.filter (!·.isEmpty))).1 [(n.alloc parts.flatten.toArray).1] := by
    refine ⟨?_, False.elim⟩
    rw [addresses_cons, addresses_nil, List.append_nil, List.forall₂_iff_zip]
    exact ⟨hlength, fun hab => Or.inr hab⟩
  have hwrap : wrap n order parts.flatten =
      (Buffer.ofRegions order [(n.alloc parts.flatten.toArray).1],
        (n.alloc parts.flatten.toArray).2) := by
    have hlong : 0 < (n.alloc parts.flatten.toArray).1.length :=
      List.length_pos_of_ne_nil hparts
    -- A region that is not empty stays as it is.
    have hkept : ([(n.alloc parts.flatten.toArray).1].filter fun r => 0 < r.length) =
        [(n.alloc parts.flatten.toArray).1] := by
      rw [List.filter_cons, if_pos (decide_eq_true hlong), List.filter_nil]
    rw [wrap, if_neg (by simpa using hparts), Buffer.ofRegions, hkept]
    rfl
  rw [hwrap]
  exact ⟨_, fun hab => Or.inl hab, hmirrors, Alike.ofRegions order hlaid⟩

/-- A buffer over at least two parts is laid over several regions, and a wrapped one is not. -/
theorem isComposite_wrapParts (m : Memory) (order : ByteOrder) {parts : List Bytes}
    (hparts : 2 ≤ parts.length) (hnonempty : ∀ part ∈ parts, part ≠ []) :
    (wrapParts m order parts).1.isComposite = true := by
  have hkept : parts.filter (!·.isEmpty) = parts := List.filter_eq_self.mpr fun part hpart => by
    simpa using hnonempty part hpart
  -- The memory changes with each part, so the lemma is about any of them.
  have hlong : ∀ (m : Memory) (parts : List Bytes), (∀ part ∈ parts, part ≠ []) →
      ((allocAll m parts).1.filter fun r => 0 < r.length).length = parts.length := by
    intro m parts
    induction parts generalizing m with
    | nil => exact fun _ => rfl
    | cons part parts ih =>
        intro hnonempty
        have hfirst : 0 < (m.alloc part.toArray).1.length :=
          List.length_pos_of_ne_nil (hnonempty part List.mem_cons_self)
        have hrest := ih (m.alloc part.toArray).2
          fun part hpart => hnonempty part (List.mem_cons_of_mem _ hpart)
        change (((m.alloc part.toArray).1 :: (allocAll (m.alloc part.toArray).2 parts).1).filter
          fun r => 0 < r.length).length = _
        rw [List.filter_cons, if_pos (decide_eq_true hfirst), List.length_cons, hrest,
          List.length_cons]
  rw [wrapParts, hkept]
  change decide (2 ≤ ((allocAll m parts).1.filter fun r => 0 < r.length).length) = true
  rw [hlong m parts hnonempty]
  exact decide_eq_true hparts

theorem isComposite_wrap (m : Memory) (order : ByteOrder) (bytes : Bytes) :
    (wrap m order bytes).1.isComposite = false := by
  rw [wrap]
  by_cases hnil : bytes.isEmpty = true
  · rw [if_pos hnil]
    rfl
  · rw [if_neg hnil]
    rfl

end Buffer

namespace Registers

/-- All that is known of the buffer with a name but its regions. -/
def face? (r : Registers) (name : String) : Option Face := (r.get? name).map (·.face r.memory)

theorem Alike.face? {cut : Prop} {N : String → Prop} {r q : Registers} (h : Alike cut N r q)
    (name : String) (hname : N name) : q.face? name = r.face? name := by
  rcases h with ⟨R, h⟩
  have hsame := h.buffers name hname
  rw [Registers.face?, Registers.face?]
  generalize r.get? name = x at hsame ⊢
  generalize q.get? name = y at hsame ⊢
  cases hsame with
  | none => rfl
  | some hbc => exact congrArg some (hbc.face h.mirrors)

/-- After any program, a buffer is laid over several parts, or wrapped around the same bytes in
    one piece. What follows goes the same way with both, unless it asks for the parts: all
    answers are the same, all that is shown, and in the end every buffer. -/
theorem composite_as_flat (before after : List BufferStep) (name shown : String)
    (order : ByteOrder) (parts : List Bytes) (hparts : 2 ≤ parts.length)
    (hnonempty : ∀ part ∈ parts, part ≠ []) (huniform : ∀ s ∈ after, s.Uniform) :
    let start := (run {} before).2
    let laid := start.run (⟨name, shown, .inl (.wrapParts order parts)⟩ :: after)
    let flat := start.run (⟨name, shown, .inl (.wrap order parts.flatten)⟩ :: after)
    (Buffer.wrapParts start.memory order parts).1.isComposite = true ∧
      (Buffer.wrap start.memory order parts.flatten).1.isComposite = false ∧
      flat.1.map blurred = laid.1.map blurred ∧
      ∀ other, flat.2.face? other = laid.2.face? other := by
  intro start laid flat
  have hstart : start.Sound := run_sound sound_nil before
  -- There is a part, and no part is empty.
  have hbytes : parts.flatten ≠ [] := by
    rcases List.exists_mem_of_length_pos (Nat.lt_of_lt_of_le Nat.two_pos hparts) with
      ⟨part, hpart⟩
    intro hnil
    exact hnonempty part hpart (List.flatten_eq_nil_iff.mp hnil part hpart)
  -- Both machines are the one they start from, and the new buffers are alike.
  rcases hstart.alike False (fun _ => True) (m := start.memory) (fun _ _ _ _ _ _ => rfl) with
    ⟨R, hsame⟩
  have hfirst : Twin False (fun _ => True)
      (start.step ⟨name, shown, .inl (.wrapParts order parts)⟩)
      (start.step ⟨name, shown, .inl (.wrap order parts.flatten)⟩) := by
    rw [step_making hstart, step_making hstart]
    exact hsame.after (Buffer.wrapParts_paired hsame.mirrors order hbytes) name rfl
  have hsound := (step_kept hstart ⟨name, shown, .inl (.wrapParts order parts)⟩).sound
  rcases run_twin hsound hfirst.2 after huniform with ⟨hrest, hend⟩
  refine ⟨Buffer.isComposite_wrapParts _ order hparts hnonempty,
    Buffer.isComposite_wrap _ order _, ?_, fun other => hend.face? other trivial⟩
  change blurred (_, _) :: _ = blurred (_, _) :: _
  exact congrArg₂ List.cons
    (Prod.ext hfirst.1.1 (hfirst.2.shown shown trivial).1) hrest

/-- Two parts, and a program that works across the place where they meet. -/
def sampleParts : List Bytes := [[1], [2, 3, 4]]

def sampleSteps : List BufferStep :=
  [⟨"laid", "laid", .inr (.word ⟨2, .unsigned⟩ .read)⟩,
    ⟨"part", "part", .inl (.slice "laid" 0 3)⟩,
    ⟨"part", "laid", .inr (.setBytes 0 [7, 8, 9])⟩,
    ⟨"laid", "part", .inr .discardReadBytes⟩]

/-- The parts go into one cell each or into one in all, and a word is read across them, a view
    of both is written to, and what is left is moved to the front. -/
theorem composite_as_flat_sample :
    2 ≤ sampleParts.length ∧ (∀ part ∈ sampleParts, part ≠ []) ∧
      (∀ s ∈ sampleSteps, s.Uniform) ∧
      ∀ other,
        ((run {} []).2.run (⟨"laid", "laid", .inl (.wrap .big sampleParts.flatten)⟩ ::
          sampleSteps)).2.face? other =
        ((run {} []).2.run (⟨"laid", "laid", .inl (.wrapParts .big sampleParts)⟩ ::
          sampleSteps)).2.face? other := by
  have hparts : 2 ≤ sampleParts.length := by decide
  have hnonempty : ∀ part ∈ sampleParts, part ≠ [] := by decide
  have huniform : ∀ s ∈ sampleSteps, s.Uniform := by simp [sampleSteps, BufferStep.Uniform]
  exact ⟨hparts, hnonempty, huniform,
    (composite_as_flat [] sampleSteps "laid" "laid" .big sampleParts hparts hnonempty
      huniform).2.2.2⟩

end Registers

end Conduit
