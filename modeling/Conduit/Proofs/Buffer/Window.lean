import Conduit.Proofs.Buffer.Joining
import Conduit.Proofs.Buffer.Stroke

/-!
# Windows onto a Buffer

A view of part of a buffer, a view of part of that view, and the flat views that make up
either. All of them are cut out of the regions of the buffer by `clip`, and each has an
index space that starts at zero, so the same byte has another index in each of them. What
ties them together is that cutting twice is cutting once, at the sum of the two indices.

This is said of the regions themselves and not only of the bytes that they show: a view of
a view is cut into the same regions as the view of the buffer, and shares all of its bytes
with it.

## Main definitions

* `Buffer.IsWindow`: What is promised of a view of a stretch.
* `Buffer.Windows`: What is promised of all views of a buffer.

## Theorems

* `Region.slice_slice`, `clip_clip`: A stretch of a stretch is a stretch of the whole.
* `slice_ok`, `slice_error`, `decompose_ok`, `decompose_error`: When a view is given, and
  what is said if not.
* `ofRegions_clip`: A view of a stretch, written out.
* `Buffer.slice_slice`: A view of a view is a view of the buffer.
* `wrapAll_flat`: Flat views of some regions, laid end to end, are a view of the regions.
* `isWindow_slice`: What a view of a stretch is.
* `Valid.windows`: What can be said of the views of any buffer in order.
-/

namespace Conduit

namespace Region

theorem slice_slice (r : Region) (index length i n : Nat) :
    (r.slice index length).slice i n = r.slice (index + i) n := by
  rw [slice, slice, slice, Nat.add_assoc]

/-- A stretch of a stretch is a stretch of the whole. -/
theorem clip_clip (rs : List Region) {index length i n : Nat} (h : i + n ≤ length) :
    clip (clip rs index length) i n = clip rs (index + i) n := by
  induction rs generalizing index length i n with
  | nil => rfl
  | cons r rs ih =>
      by_cases hzero : n = 0
      · rw [hzero, clip_zero, clip_zero]
      rw [clip.eq_2 index, clip.eq_2 (index + i)]
      by_cases hskip : r.length ≤ index
      · rw [if_pos hskip, if_pos (by omega), ih h, Nat.sub_add_comm hskip]
      · rw [if_neg hskip, if_neg (show length ≠ 0 by omega)]
        by_cases hlast : length ≤ r.length - index
        · -- All of the outer stretch is in the first region, and so is all of the inner one.
          rw [if_pos hlast, clip, slice_length, if_neg (show ¬ length ≤ i by omega),
            if_neg hzero, if_pos (show n ≤ length - i by omega), slice_slice,
            if_neg (show ¬ r.length ≤ index + i by omega), if_neg hzero,
            if_pos (show n ≤ r.length - (index + i) by omega)]
        · rw [if_neg hlast, clip, slice_length]
          by_cases hlater : r.length - index ≤ i
          · -- The inner stretch begins in a later region.
            rw [if_pos hlater, if_pos (show r.length ≤ index + i by omega), ih (by omega),
              Nat.zero_add, Nat.sub_sub_right i (Nat.le_of_not_le hskip), Nat.add_comm i]
          · -- It begins in the first region, and both sides ask whether it ends there.
            rw [if_neg hlater, if_neg hzero, if_neg (show ¬ r.length ≤ index + i by omega),
              if_neg hzero, slice_slice, slice_slice, Nat.sub_sub, ih (by omega)]

end Region

open Region

namespace Buffer

variable {b : Buffer} {index length : Nat}

/-- What is promised of a view of `length` bytes of a buffer from `index` on. -/
structure IsWindow (b : Buffer) (index length : Nat) (view : Buffer) : Prop where
  /-- All of it can be read, in the byte order of the buffer. -/
  whole : view.reader = 0 ∧ view.writer = length ∧ view.capacity = length
  order : view.order = b.order
  /-- Each byte has the address that it has in the buffer. -/
  place : ∀ k < length, view.place? k = b.place? (index + k)
  /-- A view of part of it is a view of that part of the buffer. -/
  nested : ∀ i n, i + n ≤ length → view.slice i n = b.slice (index + i) n
  /-- The stretch falls into flat pieces that can be read from end to end. One after the other
      they have the addresses of the view, and laid end to end they are the view. -/
  decomposed : ∃ parts, b.decompose index length = .ok parts ∧
    (∀ p ∈ parts, p.isComposite = false ∧ 0 < p.capacity ∧ p.reader = 0 ∧ p.writer = p.capacity) ∧
    parts.flatMap (fun p => addresses p.regions) = addresses view.regions ∧
    ∃ order, wrapAll parts = .ok (view.withOrder order) ∧ (0 < length → order = b.order)

/-- What is promised of all views of a buffer. -/
structure Windows (b : Buffer) : Prop where
  /-- A stretch within the capacity has a view. -/
  within : ∀ index length, index + length ≤ b.capacity →
    ∃ view, b.slice index length = .ok view ∧ b.IsWindow index length view
  /-- No other stretch has one, and it does not fall into pieces either. -/
  beyond : ∀ index length, b.capacity < index + length →
    b.slice index length = .error (.range (.window index length b.capacity)) ∧
      b.decompose index length = .error (.range (.window index length b.capacity))
  /-- A stretch whose end is no word is beyond every capacity that is one. -/
  overflow : ∀ index length, b.capacity < Capacity.wordLimit →
    Capacity.wordLimit ≤ index + length →
      b.slice index length = .error (.range (.window index length b.capacity))
  /-- The next bytes, as far as there are any, are passed over when a view of them is taken. -/
  next : ∀ length ≤ b.readableBytes, ∃ view, b.slice b.reader length = .ok view ∧
    b.readSlice length = .ok (view, { b with reader := b.reader + length })
  short : ∀ length, b.readableBytes < length →
    b.readSlice length = .error (.range (.unreadable length b.readableBytes))

/-! ### Views of a stretch -/

theorem slice_ok (h : index + length ≤ b.capacity) :
    b.slice index length = .ok (ofRegions b.order (clip b.regions index length)) := by
  rw [slice, checkWindow_ok h]
  rfl

theorem slice_error (h : b.capacity < index + length) :
    b.slice index length = .error (.range (.window index length b.capacity)) := by
  rw [slice, checkWindow_error h]
  rfl

theorem decompose_ok (h : index + length ≤ b.capacity) : b.decompose index length =
    .ok ((clip b.regions index length).map fun r => ofRegions b.order [r]) := by
  rw [decompose, checkWindow_ok h]
  rfl

theorem decompose_error (h : b.capacity < index + length) :
    b.decompose index length = .error (.range (.window index length b.capacity)) := by
  rw [decompose, checkWindow_error h]
  rfl

/-- A view of a stretch, written out. -/
theorem ofRegions_clip (h : index + length ≤ b.capacity) :
    ofRegions b.order (clip b.regions index length) =
      { regions := clip b.regions index length, order := b.order, writer := length,
        maxCapacity := length } := by
  rw [ofRegions_of_pos b.order fun r hr => length_pos_of_mem_clip hr, span_clip _ _ _ h]

/-- A view of a view is a view of the buffer. -/
theorem slice_slice {i n : Nat} (hin : index + length ≤ b.capacity) (h : i + n ≤ length) :
    (ofRegions b.order (clip b.regions index length)).slice i n = b.slice (index + i) n := by
  have hinner : i + n ≤ span (clip b.regions index length) := by rwa [span_clip _ _ _ hin]
  rw [ofRegions_clip hin, slice_ok hinner, slice_ok (by omega), clip_clip _ h]

/-- Flat views of some regions, laid end to end, are a view of the regions. -/
theorem wrapAll_flat (order : ByteOrder) {rs : List Region} (h : ∀ r ∈ rs, 0 < r.length) :
    ∃ order', wrapAll (rs.map fun r => ofRegions order [r]) = .ok (ofRegions order' rs) ∧
      (rs ≠ [] → order' = order) := by
  -- No region is empty, so each view is one piece, and it is the region.
  have hpieces : (rs.map fun r => ofRegions order [r]).flatMap pieces = rs := by
    rw [List.flatMap_map]
    refine (List.flatMap_congr fun r hr => ?_).trans (List.flatMap_singleton' rs)
    exact pieces_ofRegions order (List.forall_mem_singleton.mpr (h r hr))
  -- All of them have the one order, so there is no mixture to refuse.
  have hmixed : ¬ Mixed (rs.map fun r => ofRegions order [r]) := by
    rintro ⟨c, hc, d, hd, -, -, hne⟩
    rcases List.mem_map.mp hc with ⟨r, -, rfl⟩
    rcases List.mem_map.mp hd with ⟨s, -, rfl⟩
    exact hne rfl
  rcases exists_commonOrder hmixed with ⟨order', horder⟩
  refine ⟨order', by rw [wrapAll_of_order horder, hpieces], fun hsome => ?_⟩
  rcases List.exists_mem_of_ne_nil rs hsome with ⟨r, hr⟩
  refine (order_of_commonOrder horder (List.mem_map_of_mem hr) ?_).symm
  rw [ofRegions_single order (h r hr), isReadable, decide_eq_true_eq]
  exact h r hr

theorem isWindow_slice (h : index + length ≤ b.capacity) :
    b.IsWindow index length (ofRegions b.order (clip b.regions index length)) := by
  have hpos : ∀ r ∈ clip b.regions index length, 0 < r.length :=
    fun r hr => length_pos_of_mem_clip hr
  have hspan : span (clip b.regions index length) = length := span_clip _ _ _ h
  have hview := ofRegions_clip h
  refine ⟨?_, rfl, ?_, fun i n hin => slice_slice h hin, ?_⟩
  · rw [hview]
    exact ⟨rfl, rfl, hspan⟩
  · intro k hk
    rw [hview, place?, place?, addresses_clip, List.getElem?_take_of_lt hk, List.getElem?_drop]
  · -- The parts laid end to end are the view again.
    rcases wrapAll_flat b.order hpos with ⟨order, hwrap, horder⟩
    refine ⟨_, decompose_ok h, ?_, ?_, order, hwrap, fun hlength => horder ?_⟩
    · intro p hp
      rcases List.mem_map.mp hp with ⟨r, hr, rfl⟩
      rw [ofRegions_single b.order (hpos r hr)]
      exact ⟨rfl, hpos r hr, rfl, rfl⟩
    · rw [hview, List.flatMap_map]
      refine List.flatMap_congr fun r hr => ?_
      rw [ofRegions_single b.order (hpos r hr), addresses_cons, addresses_nil, List.append_nil]
    · intro hnone
      rw [hnone, span_nil] at hspan
      omega

/-- What can be said of the views of any buffer whose cursors are in order. -/
theorem Valid.windows (h : b.Valid) : b.Windows where
  within index length hin := ⟨_, slice_ok hin, isWindow_slice hin⟩
  beyond index length hout := ⟨slice_error hout, decompose_error hout⟩
  overflow index length hword hover := slice_error (Nat.lt_of_lt_of_le hword hover)
  next length hlength := by
    have hin := h.reader_add_le hlength
    refine ⟨_, slice_ok hin, ?_⟩
    rw [readSlice, checkReadable_ok hlength, slice_ok hin]
    rfl
  short length hlength := by
    rw [readSlice, checkReadable_error hlength]
    rfl

end Buffer

end Conduit
