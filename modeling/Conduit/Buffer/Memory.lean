/-!
# Shared Memory

Where the bytes of buffers live. Memory is a growing collection of cells, and a
region names a stretch of one cell, so two regions share bytes exactly when they
overlap in the same cell. Nothing is ever taken out of memory: a cell stays what
it is in length, and the only change after its making is that bytes are
overwritten in place.

A buffer looks at memory through a list of regions laid end to end. `clip` finds
the pieces of such a list that cover a stretch of it, and reading and writing go
through those pieces in order. Where pieces overlap in memory the order is
visible: a later piece of a write wins over an earlier one.

## Main definitions

* `Bytes`: A sequence of bytes.
* `Region`: A stretch of one cell.
* `Memory`: The cells.
* `Region.clip`: The pieces of a list of regions that cover a stretch of it.
* `Memory.load`, `Memory.store`: Reading and writing through a list of regions.
* `Memory.alloc`: A new cell, and the region that spans it.

## Theorems

* `size_overwrite`: Overwriting keeps the size.
* `getElem?_overwrite`: What stands where after overwriting.
* `span_nil`, `span_cons`, `span_append`: How much regions span.
* `clip_zero`: A stretch of no bytes has no pieces.
* `span_clip`: The pieces of a stretch that fits are as long as the stretch.
* `length_pos_of_mem_clip`: No piece of a stretch is empty.
* `loadAll_eq_flatMap`: What is read through several regions.
-/

namespace Conduit

/-- A sequence of bytes. -/
abbrev Bytes := List UInt8

/-- The bytes of `src` written over `cell` from `start` on. Whatever would fall
    past the end of the cell is dropped. -/
def overwrite (cell : Array UInt8) (start : Nat) : Bytes → Array UInt8
  | [] => cell
  | byte :: src => overwrite (cell.setIfInBounds start byte) (start + 1) src

@[simp] theorem size_overwrite (cell : Array UInt8) (start : Nat) (src : Bytes) :
    (overwrite cell start src).size = cell.size := by
  induction src generalizing cell start with
  | nil => rfl
  | cons byte src ih => simp [overwrite, ih]

/-- After overwriting, the written stretch holds the new bytes and the rest of the
    cell is as it was. -/
theorem getElem?_overwrite (cell : Array UInt8) (start : Nat) (src : Bytes) (k : Nat) :
    (overwrite cell start src)[k]? =
      if start ≤ k ∧ k < start + src.length ∧ k < cell.size then src[k - start]?
      else cell[k]? := by
  induction src generalizing cell start with
  | nil =>
    rw [if_neg (by simp; omega)]
    rfl
  | cons byte src ih =>
    simp only [overwrite, ih, Array.size_setIfInBounds, List.length_cons,
      Array.getElem?_setIfInBounds]
    by_cases hk : start = k
    · subst hk
      rw [if_neg (by omega)]
      by_cases hs : start < cell.size
      · simp [hs]
      · simp [hs]
    · by_cases hin : start + 1 ≤ k ∧ k < start + 1 + src.length ∧ k < cell.size
      · rw [if_pos hin, if_pos (by omega)]
        -- The index counts from the start in both, so it is one less among the later bytes.
        obtain ⟨j, rfl⟩ : ∃ j, k = start + 1 + j := ⟨k - (start + 1), by omega⟩
        simp [show start + 1 + j - start = j + 1 by omega]
      · rw [if_neg hin, if_neg hk, if_neg (by omega)]

/-- A stretch of one memory cell. -/
structure Region where
  /-- Which cell. -/
  cell : Nat
  /-- Where in the cell the region starts. -/
  offset : Nat
  /-- How many bytes it spans. -/
  length : Nat
  deriving DecidableEq, Repr, Inhabited

namespace Region

/-- The part of a region that starts at `index` and spans `length` bytes. -/
def slice (r : Region) (index length : Nat) : Region :=
  { r with offset := r.offset + index, length := length }

/-- How many bytes a list of regions spans, laid end to end. -/
def span : List Region → Nat
  | [] => 0
  | r :: rs => r.length + span rs

/-- The pieces of a list of regions, laid end to end, that cover `length` bytes
    from `index` on. No piece is empty. -/
def clip : List Region → (index length : Nat) → List Region
  | [], _, _ => []
  | r :: rs, index, length =>
    if r.length ≤ index then clip rs (index - r.length) length
    else if length = 0 then []
    else if length ≤ r.length - index then [r.slice index length]
    else r.slice index (r.length - index) :: clip rs 0 (length - (r.length - index))

@[simp] theorem span_nil : span [] = 0 := rfl

@[simp] theorem span_cons (r : Region) (rs : List Region) :
    span (r :: rs) = r.length + span rs := rfl

@[simp] theorem span_append (rs ss : List Region) : span (rs ++ ss) = span rs + span ss := by
  induction rs with
  | nil => rw [List.nil_append, span_nil, Nat.zero_add]
  | cons r rs ih => rw [List.cons_append, span_cons, span_cons, ih, Nat.add_assoc]

@[simp] theorem clip_zero (rs : List Region) (index : Nat) : clip rs index 0 = [] := by
  induction rs generalizing index with
  | nil => rfl
  | cons r rs ih => simp [clip, ih]

/-- The pieces of a stretch that fits are together as long as the stretch. -/
theorem span_clip (rs : List Region) (index length : Nat) (h : index + length ≤ span rs) :
    span (clip rs index length) = length := by
  induction rs generalizing index length with
  | nil => simp at h; simp [clip]; omega
  | cons r rs ih =>
    rw [span_cons] at h
    unfold clip
    split
    · exact ih _ _ (by omega)
    · split
      · subst length; rfl
      · split
        · simp [slice]
        · rw [span_cons, ih 0 _ (by omega)]
          simp only [slice]
          omega

/-- No piece of a stretch is empty. -/
theorem length_pos_of_mem_clip {rs : List Region} {index length : Nat} {p : Region}
    (h : p ∈ clip rs index length) : 0 < p.length := by
  induction rs generalizing index length with
  | nil => simp [clip] at h
  | cons r rs ih =>
    unfold clip at h
    split at h
    · exact ih h
    · split at h
      · simp at h
      · split at h
        · -- A piece ends where the stretch does or where its region does, and neither is at once.
          simp only [List.mem_singleton] at h
          subst h
          simp only [slice]
          omega
        · rcases List.mem_cons.1 h with rfl | h
          · simp only [slice]
            omega
          · exact ih h

end Region

/-- The cells in which the bytes of buffers live. -/
structure Memory where
  cells : Array (Array UInt8) := #[]
  deriving Repr, Inhabited

namespace Memory

/-- The bytes of one cell; none for a cell that does not exist. -/
def cell (m : Memory) (id : Nat) : Array UInt8 :=
  m.cells.getD id #[]

/-- The bytes that a region spans. -/
def loadRegion (m : Memory) (r : Region) : Bytes :=
  ((m.cell r.cell).extract r.offset (r.offset + r.length)).toList

/-- Memory after `src` has been written from the start of a region on. -/
def storeRegion (m : Memory) (r : Region) (src : Bytes) : Memory :=
  { m with cells := m.cells.modify r.cell fun bytes => overwrite bytes r.offset src }

/-- The bytes that a list of regions spans, in order. They are put together from the
    back, so that none is moved twice. -/
def loadAll (m : Memory) (rs : List Region) : Bytes :=
  rs.foldr (fun r rest =>
    ((m.cell r.cell).extract r.offset (r.offset + r.length)).toListAppend rest) []

/-- What a list of regions spans is what each of them spans, end to end. -/
theorem loadAll_eq_flatMap (m : Memory) (rs : List Region) :
    m.loadAll rs = rs.flatMap m.loadRegion := by
  induction rs with
  | nil => rfl
  | cons r rs ih =>
    rw [List.flatMap_cons, ← ih]
    exact Array.toListAppend_eq

/-- Memory after `src` has been written through a list of regions, in order. -/
def storeAll (m : Memory) : List Region → Bytes → Memory
  | [], _ => m
  | r :: rs, src => storeAll (m.storeRegion r (src.take r.length)) rs (src.drop r.length)

/-- The `length` bytes from `index` on, seen through a list of regions. -/
def load (m : Memory) (rs : List Region) (index length : Nat) : Bytes :=
  m.loadAll (Region.clip rs index length)

/-- Memory after `src` has been written from `index` on through a list of regions. -/
def store (m : Memory) (rs : List Region) (index : Nat) (src : Bytes) : Memory :=
  m.storeAll (Region.clip rs index src.length) src

/-- A new cell that holds `bytes`, and the region that spans it. -/
def alloc (m : Memory) (bytes : Array UInt8) : Region × Memory :=
  (⟨m.cells.size, 0, bytes.size⟩, { m with cells := m.cells.push bytes })

/-- A byte at one index, seen through a list of regions. -/
def byteAt (m : Memory) : List Region → Nat → Option UInt8
  | [], _ => none
  | r :: rs, index =>
    if index < r.length then (m.cell r.cell)[r.offset + index]?
    else byteAt m rs (index - r.length)

end Memory

end Conduit
