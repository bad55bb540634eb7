import Conduit.Buffer.Memory

/-!
# What Regions Show

Memory is read and written through lists of regions, and reading and writing both
begin by clipping the list to a stretch. The image of a list is everything that it
spans, as one byte string. Seen as operations on the image there is nothing left of
the clipping: reading takes a stretch of the image out, and writing puts one in.

Writing needs more than reading for that. Where two regions of a list overlap, a
byte that is written through one of them changes what the other one shows, so the
regions have to be apart. And no region may reach past its cell, since what would
lie there is not read and cannot be written.

## Main definitions

* `Region.Fits`: A region does not reach past its cell.
* `Region.Apart`: Two regions have no byte in common.
* `Region.Within`: A region is part of another one.
* `patch`: A byte string with a stretch of it replaced.

## Theorems

* `patch_nil`, `patch_append`: Replacing nothing, and replacing across a seam.
* `slice_cell`, `slice_offset`, `slice_length`: Where part of a region lies.
* `slice_within`, `within_of_mem_clip`: Parts and pieces of regions lie within them.
* `Apart.symm`, `Apart.of_within`: What is apart stays so for its parts.
* `getElem?_loadRegion`: A byte of a region is a byte of its cell.
* `length_loadRegion`, `length_loadAll`: As many bytes are read as are spanned.
* `loadRegion_slice`: Part of a region shows part of what the region shows.
* `loadAll_nil`, `loadAll_cons`: The image of one region after the other.
* `loadAll_congr`: An image only depends on what its regions show.
* `load_eq`: Reading takes a stretch of the image out.
* `cell_storeRegion`, `size_cell_storeRegion`, `size_cell_storeAll`: What writing makes
  of a cell, which keeps its size.
* `fits_storeAll`: Writing does not change what fits.
* `loadRegion_storeRegion_apart`, `loadRegion_storeAll_apart`: Writing elsewhere does
  not show.
* `loadRegion_storeRegion_slice`: Writing into part of a region patches what it shows.
* `loadAll_store`: Writing puts a stretch into the image.
* `cell_alloc`, `loadRegion_alloc`, `loadAll_alloc`: A new cell does not show either.
* `loadRegion_alloc_self`: A new cell shows what it was made of.
-/

namespace Conduit

/-- A byte string with the stretch from `index` on replaced by `src`. -/
def patch (bytes : Bytes) (index : Nat) (src : Bytes) : Bytes :=
  bytes.take index ++ src ++ bytes.drop (index + src.length)

@[simp] theorem patch_nil (bytes : Bytes) (index : Nat) : patch bytes index [] = bytes := by
  simp [patch]

/-- A stretch that is put into two byte strings end to end goes into the first one as far as
    there is room, and then into the second. -/
theorem patch_append (a b : Bytes) (index : Nat) (src : Bytes) :
    patch (a ++ b) index src =
      patch a index (src.take (a.length - index)) ++
        patch b (index - a.length) (src.drop (a.length - index)) := by
  simp only [patch, List.take_append, List.drop_append, List.length_take, List.length_drop]
  -- The stretch begins in the second string, or ends in the first, or lies across the seam.
  by_cases hskip : a.length ≤ index
  · have hnone : ∀ i, a.length ≤ i → a.drop i = [] := fun i hi => List.drop_eq_nil_of_le hi
    rw [show a.length - index = 0 by omega, List.take_zero, List.drop_zero, Nat.zero_min,
      List.take_of_length_le hskip, hnone _ (by omega), hnone _ (by omega), Nat.sub_zero,
      Nat.sub_add_comm hskip]
    simp
  · rw [show index - a.length = 0 by omega, List.take_zero, List.append_nil, Nat.zero_add]
    by_cases hfits : src.length ≤ a.length - index
    · rw [List.take_of_length_le hfits, List.drop_eq_nil_of_le hfits, Nat.min_eq_right hfits,
        show index + src.length - a.length = 0 by omega,
        show src.length - (a.length - index) = 0 by omega]
      simp
    · have hsrc : src.take (a.length - index) ++ src.drop (a.length - index) = src :=
        List.take_append_drop _ _
      have hnone : ∀ i, a.length ≤ i → a.drop i = [] := fun i hi => List.drop_eq_nil_of_le hi
      rw [Nat.min_eq_left (by omega), hnone _ (by omega), hnone _ (by omega),
        show index + src.length - a.length = src.length - (a.length - index) by omega]
      simp only [List.nil_append, List.append_nil, List.append_assoc]
      rw [← List.append_assoc (src.take _), hsrc]

namespace Region

/-- The region does not reach past its cell. -/
def Fits (m : Memory) (r : Region) : Prop :=
  r.offset + r.length ≤ (m.cell r.cell).size

/-- No byte belongs to both regions. -/
def Apart (r s : Region) : Prop :=
  r.cell ≠ s.cell ∨ r.offset + r.length ≤ s.offset ∨ s.offset + s.length ≤ r.offset

/-- The first region is part of the second. -/
def Within (p r : Region) : Prop :=
  p.cell = r.cell ∧ r.offset ≤ p.offset ∧ p.offset + p.length ≤ r.offset + r.length

@[simp] theorem slice_cell (r : Region) (index length : Nat) :
    (r.slice index length).cell = r.cell := rfl

@[simp] theorem slice_offset (r : Region) (index length : Nat) :
    (r.slice index length).offset = r.offset + index := rfl

@[simp] theorem slice_length (r : Region) (index length : Nat) :
    (r.slice index length).length = length := rfl

theorem slice_within (r : Region) {index length : Nat} (h : index + length ≤ r.length) :
    (r.slice index length).Within r := by
  refine ⟨rfl, Nat.le_add_right _ _, ?_⟩
  rw [slice_offset, slice_length]
  omega

theorem Apart.of_within {p r s : Region} (h : r.Apart s) (hp : p.Within r) : p.Apart s := by
  rcases hp with ⟨hcell, hlow, hhigh⟩
  rcases h with h | h | h
  · exact Or.inl (hcell ▸ h)
  · exact Or.inr (Or.inl (by omega))
  · exact Or.inr (Or.inr (by omega))

theorem Apart.symm {r s : Region} (h : r.Apart s) : s.Apart r := by
  rcases h with h | h | h
  · exact Or.inl h.symm
  · exact Or.inr (Or.inr h)
  · exact Or.inr (Or.inl h)

/-- Every piece of a list of regions is part of one of them. -/
theorem within_of_mem_clip {rs : List Region} {index length : Nat} {p : Region}
    (h : p ∈ clip rs index length) : ∃ r ∈ rs, p.Within r := by
  induction rs generalizing index length with
  | nil => exact absurd h (by simp [clip])
  | cons r rs ih =>
      -- Two of the four branches of `clip` go on in the later regions, with different stretches.
      have hlater : ∀ {i n : Nat}, p ∈ clip rs i n → ∃ s ∈ r :: rs, p.Within s := by
        intro i n hp
        rcases ih hp with ⟨s, hs, hwithin⟩
        exact ⟨s, List.mem_cons_of_mem r hs, hwithin⟩
      rw [clip] at h
      by_cases hskip : r.length ≤ index
      · rw [if_pos hskip] at h
        exact hlater h
      · rw [if_neg hskip] at h
        by_cases hzero : length = 0
        · rw [if_pos hzero] at h
          exact absurd h (by simp)
        · rw [if_neg hzero] at h
          by_cases hlast : length ≤ r.length - index
          · rw [if_pos hlast, List.mem_singleton] at h
            exact ⟨r, List.mem_cons_self, h ▸ r.slice_within (by omega)⟩
          · rw [if_neg hlast] at h
            rcases List.mem_cons.mp h with h | h
            · exact ⟨r, List.mem_cons_self, h ▸ r.slice_within (by omega)⟩
            · exact hlater h

end Region

namespace Memory

/-! ### Reading -/

/-- A byte of a region is a byte of its cell. -/
theorem getElem?_loadRegion (m : Memory) (r : Region) (k : Nat) :
    (m.loadRegion r)[k]? = if k < r.length then (m.cell r.cell)[r.offset + k]? else none := by
  rw [loadRegion, Array.getElem?_toList]
  by_cases hk : k < r.length
  · rw [if_pos hk, Array.getElem?_extract]
    -- A region may reach past its cell, and shows nothing there.
    by_cases hsize : r.offset + k < (m.cell r.cell).size
    · rw [if_pos (by omega)]
    · rw [if_neg (by omega), Array.getElem?_eq_none (by omega)]
  · rw [if_neg hk, Array.getElem?_eq_none]
    rw [Array.size_extract]
    omega

theorem length_loadRegion {m : Memory} {r : Region} (h : r.Fits m) :
    (m.loadRegion r).length = r.length := by
  rw [Region.Fits] at h
  rw [loadRegion, Array.length_toList, Array.size_extract]
  omega

/-- Part of a region shows part of what the region shows. -/
theorem loadRegion_slice (m : Memory) (r : Region) {index length : Nat}
    (h : index + length ≤ r.length) :
    m.loadRegion (r.slice index length) = ((m.loadRegion r).drop index).take length := by
  apply List.ext_getElem?
  intro k
  rw [getElem?_loadRegion, List.getElem?_take, List.getElem?_drop, getElem?_loadRegion]
  by_cases hk : k < length
  · rw [if_pos hk, if_pos (by rwa [Region.slice_length]), if_pos (by omega), Region.slice_cell,
      Region.slice_offset, Nat.add_assoc]
  · rw [if_neg hk, if_neg (by rwa [Region.slice_length])]

@[simp] theorem loadAll_nil (m : Memory) : m.loadAll [] = [] := rfl

@[simp] theorem loadAll_cons (m : Memory) (r : Region) (rs : List Region) :
    m.loadAll (r :: rs) = m.loadRegion r ++ m.loadAll rs := by
  rw [loadAll_eq_flatMap, loadAll_eq_flatMap, List.flatMap_cons]

theorem loadAll_congr {m m' : Memory} {rs : List Region}
    (h : ∀ r ∈ rs, m'.loadRegion r = m.loadRegion r) : m'.loadAll rs = m.loadAll rs := by
  induction rs with
  | nil => rfl
  | cons r rs ih =>
      rw [loadAll_cons, loadAll_cons, h r List.mem_cons_self,
        ih fun s hs => h s (List.mem_cons_of_mem r hs)]

theorem length_loadAll {m : Memory} {rs : List Region} (h : ∀ r ∈ rs, r.Fits m) :
    (m.loadAll rs).length = Region.span rs := by
  induction rs with
  | nil => rfl
  | cons r rs ih =>
      rw [loadAll_cons, List.length_append, length_loadRegion (h r List.mem_cons_self),
        ih fun s hs => h s (List.mem_cons_of_mem r hs), Region.span_cons]

/-- Reading takes a stretch of the image out. -/
theorem load_eq {m : Memory} {rs : List Region} (h : ∀ r ∈ rs, r.Fits m) (index length : Nat) :
    m.load rs index length = ((m.loadAll rs).drop index).take length := by
  rw [load]
  induction rs generalizing index length with
  | nil => simp [Region.clip]
  | cons r rs ih =>
      have hr : (m.loadRegion r).length = r.length := length_loadRegion (h r List.mem_cons_self)
      -- The cases are those of `clip`: behind this region, nothing left, within it, or beyond it.
      have ih := ih fun s hs => h s (List.mem_cons_of_mem r hs)
      rw [Region.clip, loadAll_cons, List.drop_append, hr]
      by_cases hskip : r.length ≤ index
      · rw [if_pos hskip, ih, List.drop_eq_nil_of_le (i := index) (by rw [hr]; exact hskip),
          List.nil_append]
      · rw [if_neg hskip, show index - r.length = 0 by omega, List.drop_zero]
        by_cases hzero : length = 0
        · rw [if_pos hzero, hzero, List.take_zero]
          rfl
        · have hleft : ((m.loadRegion r).drop index).length = r.length - index := by
            rw [List.length_drop, hr]
          rw [if_neg hzero, List.take_append, hleft]
          by_cases hlast : length ≤ r.length - index
          · rw [if_pos hlast, show length - (r.length - index) = 0 by omega, List.take_zero,
              List.append_nil, loadAll_cons, loadAll_nil, List.append_nil,
              loadRegion_slice m r (by omega)]
          · -- The stretch goes on in the regions after this one.
            rw [if_neg hlast, loadAll_cons, ih, List.drop_zero, loadRegion_slice m r (by omega),
              List.take_of_length_le (Nat.le_of_eq hleft),
              List.take_of_length_le (i := length) (by rw [hleft]; omega)]

/-! ### Writing through one region -/

theorem cell_storeRegion (m : Memory) (r : Region) (src : Bytes) (id : Nat) :
    (m.storeRegion r src).cell id =
      if id = r.cell then overwrite (m.cell id) r.offset src else m.cell id := by
  simp only [cell, storeRegion, Array.getD_eq_getD_getElem?, Array.getElem?_modify]
  by_cases hid : r.cell = id
  · subst hid
    rw [if_pos rfl, if_pos rfl]
    cases m.cells[r.cell]? with
    | none =>
        -- What is written into a cell that does not exist is lost.
        have hsize : (overwrite #[] r.offset src).size = 0 := size_overwrite _ _ _
        exact (Array.size_eq_zero_iff.mp hsize).symm
    | some bytes => rfl
  · rw [if_neg hid, if_neg (Ne.symm hid)]

theorem size_cell_storeRegion (m : Memory) (r : Region) (src : Bytes) (id : Nat) :
    ((m.storeRegion r src).cell id).size = (m.cell id).size := by
  rw [cell_storeRegion]
  by_cases hid : id = r.cell
  · rw [if_pos hid, size_overwrite]
  · rw [if_neg hid]

/-- Writing into one region does not show in another that is apart from it. -/
theorem loadRegion_storeRegion_apart (m : Memory) {r s : Region} {src : Bytes}
    (hlen : src.length ≤ r.length) (h : r.Apart s) :
    (m.storeRegion r src).loadRegion s = m.loadRegion s := by
  apply List.ext_getElem?
  intro k
  rw [getElem?_loadRegion, getElem?_loadRegion]
  by_cases hk : k < s.length
  · rw [if_pos hk, if_pos hk, cell_storeRegion]
    by_cases hcell : s.cell = r.cell
    · rw [if_pos hcell, getElem?_overwrite]
      rcases h with h | h | h
      · exact absurd hcell.symm h
      · rw [if_neg (by omega)]
      · rw [if_neg (by omega)]
    · rw [if_neg hcell]
  · rw [if_neg hk, if_neg hk]

/-- Writing into part of a region patches what the region shows. -/
theorem loadRegion_storeRegion_slice {m : Memory} {r : Region} (hr : r.Fits m) {index : Nat}
    {src : Bytes} (h : index + src.length ≤ r.length) (length : Nat) :
    (m.storeRegion (r.slice index length) src).loadRegion r = patch (m.loadRegion r) index src := by
  have hlen : (m.loadRegion r).length = r.length := length_loadRegion hr
  rw [Region.Fits] at hr
  apply List.ext_getElem?
  intro k
  rw [getElem?_loadRegion, cell_storeRegion, Region.slice_cell, if_pos rfl, getElem?_overwrite,
    Region.slice_offset, patch, List.append_assoc, List.getElem?_append, List.length_take, hlen,
    List.getElem?_append, List.getElem?_take, List.getElem?_drop, getElem?_loadRegion,
    getElem?_loadRegion]
  by_cases hbefore : k < index
  · -- Before the patch,
    rw [if_pos (by omega), if_neg (by omega), if_pos (by omega), if_pos hbefore, if_pos (by omega)]
  · rw [if_neg (show ¬ k < min index r.length by omega)]
    by_cases hin : k < index + src.length
    · -- within it,
      rw [if_pos (by omega), if_pos (by omega), if_pos (by omega),
        show r.offset + k - (r.offset + index) = k - min index r.length by omega]
    · -- and after it.
      rw [if_neg (show ¬ k - min index r.length < src.length by omega),
        show index + src.length + (k - min index r.length - src.length) = k by omega]
      by_cases hk : k < r.length
      · rw [if_pos hk, if_pos hk, if_neg (by omega)]
      · rw [if_neg hk, if_neg hk]

/-! ### Writing through several regions -/

theorem size_cell_storeAll (m : Memory) (ps : List Region) (src : Bytes) (id : Nat) :
    ((m.storeAll ps src).cell id).size = (m.cell id).size := by
  induction ps generalizing m src with
  | nil => rfl
  | cons p ps ih => rw [storeAll, ih, size_cell_storeRegion]

/-- Writing does not change what fits. -/
theorem fits_storeAll {m : Memory} {r : Region} (h : r.Fits m) (ps : List Region) (src : Bytes) :
    r.Fits (m.storeAll ps src) := by
  rw [Region.Fits, size_cell_storeAll]
  exact h

theorem loadRegion_storeAll_apart {ps : List Region} {s : Region} (h : ∀ p ∈ ps, p.Apart s)
    (m : Memory) (src : Bytes) : (m.storeAll ps src).loadRegion s = m.loadRegion s := by
  induction ps generalizing m src with
  | nil => rfl
  | cons p ps ih =>
      rw [storeAll, ih (fun q hq => h q (List.mem_cons_of_mem p hq)),
        loadRegion_storeRegion_apart m (List.length_take_le _ _) (h p List.mem_cons_self)]

/-- Writing puts a stretch into the image. -/
theorem loadAll_store {m : Memory} {rs : List Region} (hfits : ∀ r ∈ rs, r.Fits m)
    (hapart : rs.Pairwise Region.Apart) {index : Nat} {src : Bytes}
    (h : index + src.length ≤ Region.span rs) :
    (m.store rs index src).loadAll rs = patch (m.loadAll rs) index src := by
  rw [store]
  induction rs generalizing m index src with
  | nil =>
      -- Nothing can have been written where there is no room.
      have hsrc : src = [] := List.eq_nil_of_length_eq_zero (by rw [Region.span_nil] at h; omega)
      simp [hsrc, Region.clip, storeAll, patch]
  | cons r rs ih =>
      have hr : (m.loadRegion r).length = r.length := length_loadRegion (hfits r List.mem_cons_self)
      rcases List.pairwise_cons.mp hapart with ⟨hfirst, hrest⟩
      rw [Region.span_cons] at h
      -- What is written through later regions does not show in this one.
      have hlater : ∀ i n, ∀ p ∈ Region.clip rs i n, p.Apart r := by
        intro i n p hp
        rcases Region.within_of_mem_clip hp with ⟨s, hs, hwithin⟩
        exact (hfirst s hs).symm.of_within hwithin
      rw [loadAll_cons, loadAll_cons, patch_append, hr]
      by_cases hskip : r.length ≤ index
      · rw [Region.clip, if_pos hskip, loadRegion_storeAll_apart (hlater _ _),
          ih (fun s hs => hfits s (List.mem_cons_of_mem r hs)) hrest (by omega),
          show r.length - index = 0 by omega, List.take_zero, patch_nil, List.drop_zero]
      · by_cases hnil : src = []
        · rw [hnil, List.length_nil, Region.clip_zero, storeAll, List.take_nil, List.drop_nil,
            patch_nil, patch_nil]
        · -- The first bytes go into this region, and those that do not fit go on.
          have hstore : m.storeAll (Region.clip (r :: rs) index src.length) src =
              (m.storeRegion (r.slice index (min src.length (r.length - index)))
                (src.take (r.length - index))).storeAll
                (Region.clip rs 0 (src.drop (r.length - index)).length)
                (src.drop (r.length - index)) := by
            rw [Region.clip, if_neg hskip, if_neg (by rwa [List.length_eq_zero_iff])]
            by_cases hlast : src.length ≤ r.length - index
            · rw [if_pos hlast, Nat.min_eq_left hlast, List.drop_eq_nil_of_le hlast,
                List.length_nil, Region.clip_zero, storeAll, storeAll, storeAll,
                Region.slice_length, List.take_of_length_le (Nat.le_refl _),
                List.take_of_length_le hlast]
            · rw [if_neg hlast, Nat.min_eq_right (by omega), List.length_drop, storeAll,
                Region.slice_length]
          -- What goes into this region does not show in the later ones, so the induction goes on
          -- from the image that they had.
          have hpiece : (r.slice index (min src.length (r.length - index))).Within r :=
            r.slice_within (by omega)
          have hlen : (src.take (r.length - index)).length =
              min src.length (r.length - index) := by
            rw [List.length_take, Nat.min_comm]
          have hsame : (m.storeRegion (r.slice index (min src.length (r.length - index)))
              (src.take (r.length - index))).loadAll rs = m.loadAll rs :=
            loadAll_congr fun s hs => loadRegion_storeRegion_apart m (Nat.le_of_eq hlen)
              ((hfirst s hs).of_within hpiece)
          have hfits' : ∀ s ∈ rs, s.Fits (m.storeRegion
              (r.slice index (min src.length (r.length - index)))
              (src.take (r.length - index))) := by
            intro s hs
            rw [Region.Fits, size_cell_storeRegion]
            exact hfits s (List.mem_cons_of_mem r hs)
          rw [hstore, loadRegion_storeAll_apart (hlater _ _),
            loadRegion_storeRegion_slice (hfits r List.mem_cons_self) (by omega),
            ih hfits' hrest (by rw [List.length_drop]; omega), hsame,
            show index - r.length = 0 by omega]

/-! ### New cells -/

theorem cell_alloc (m : Memory) (bytes : Array UInt8) (id : Nat) :
    (m.alloc bytes).2.cell id = if id = m.cells.size then bytes else m.cell id := by
  simp only [cell, alloc, Array.getD_eq_getD_getElem?, Array.getElem?_push]
  by_cases hid : id = m.cells.size
  · rw [if_pos hid, if_pos hid, Option.getD_some]
  · rw [if_neg hid, if_neg hid]

/-- A region that fits goes on fitting, and shows what it showed, when there is a new cell. -/
theorem loadRegion_alloc {m : Memory} {r : Region} (h : r.Fits m) (bytes : Array UInt8) :
    r.Fits (m.alloc bytes).2 ∧ (m.alloc bytes).2.loadRegion r = m.loadRegion r := by
  rw [Region.Fits] at h ⊢
  rw [loadRegion, loadRegion, cell_alloc]
  by_cases hid : r.cell = m.cells.size
  · -- A region of a cell that was not there yet has no room for a byte.
    have hnone : m.cell r.cell = #[] := by
      rw [cell, Array.getD_eq_getD_getElem?, Array.getElem?_eq_none (Nat.le_of_eq hid.symm)]
      rfl
    rw [hnone, List.size_toArray, List.length_nil] at h
    rw [if_pos hid, hnone, show r.offset = 0 by omega, show r.length = 0 by omega]
    exact ⟨Nat.zero_le _, by simp⟩
  · rw [if_neg hid]
    exact ⟨h, rfl⟩

theorem loadAll_alloc {m : Memory} {rs : List Region} (h : ∀ r ∈ rs, r.Fits m)
    (bytes : Array UInt8) : (m.alloc bytes).2.loadAll rs = m.loadAll rs :=
  loadAll_congr fun r hr => (loadRegion_alloc (h r hr) bytes).2

/-- The region of a new cell shows what the cell was made of. -/
theorem loadRegion_alloc_self (m : Memory) (bytes : Array UInt8) :
    (m.alloc bytes).1.Fits (m.alloc bytes).2 ∧
      (m.alloc bytes).2.loadRegion (m.alloc bytes).1 = bytes.toList := by
  have hcell : (m.alloc bytes).2.cell m.cells.size = bytes := by rw [cell_alloc, if_pos rfl]
  refine ⟨?_, ?_⟩
  · change 0 + bytes.size ≤ ((m.alloc bytes).2.cell m.cells.size).size
    exact Nat.le_of_eq (by rw [hcell, Nat.zero_add])
  · change (((m.alloc bytes).2.cell m.cells.size).extract 0 (0 + bytes.size)).toList = _
    rw [hcell, Nat.zero_add, Array.extract_size]

end Memory

end Conduit
