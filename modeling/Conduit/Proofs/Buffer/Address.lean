import Conduit.Proofs.Buffer.Image

/-!
# Addresses

Where in memory each byte of a list of regions lies. A list of regions is a compact
way to write a list of addresses, and how it is cut into regions is all that is lost
when it is written out. Clipping is then nothing but taking a stretch of the list,
reading goes from address to address, and so does writing.

That holds without any condition. Regions may overlap, so an address may occur more
than once, and a later byte of a write wins over an earlier one; `poke` goes through
the addresses in order and says just that. A region may reach past its cell, and
then there is no byte at some of its addresses.

## Main definitions

* `Location`: Where a byte lies.
* `Region.places`, `Region.addresses`: The addresses of a region, and of several.
* `Memory.byte?`: The byte at an address.
* `poke`: One byte after the other put at its address.

## Theorems

* `poke_append`: Putting bytes at some addresses, and then at others.
* `isSome_poke`, `poke_of_not_mem`: No address comes up that had no byte, and nothing
  happens elsewhere.
* `zip_append_take`: Pairing bytes with two lists of addresses end to end.
* `addresses_nil`, `addresses_cons`: The addresses of one region after those of another.
* `length_places`, `length_addresses`: As many addresses as bytes are spanned.
* `mem_places`, `mem_addresses`: Which addresses these are.
* `places_slice`: Part of a region has part of its addresses.
* `addresses_filter`: Regions without a byte have none.
* `addresses_clip`: A stretch of regions is a stretch of addresses.
* `isSome_byte?`, `lt_size_of_byte?`: Where there is a byte.
* `byte?_of_fits`: There is one at each address of a region that fits.
* `take_drop_eq_filterMap`: A stretch of a list as its entries at a row of indices.
* `loadRegion_eq_filterMap`, `loadAll_eq_filterMap`, `load_eq_filterMap`: Reading goes
  from address to address.
* `byteAt_eq`: So does looking at one index.
* `byte?_storeRegion`, `byte?_storeAll`, `byte?_store`: So does writing.
* `byte?_alloc`: A new cell has the addresses of its own.
-/

namespace Conduit

/-- Where a byte lies: in which cell, and how far from its start. -/
abbrev Location := Nat × Nat

/-- What lies where after bytes have been put at addresses that have one, one after the
    other. -/
def poke (bytes : Location → Option UInt8) : List (Location × UInt8) → Location → Option UInt8
  | [] => bytes
  | (a, byte) :: rest =>
    poke (fun x => if x = a then (bytes a).map fun _ => byte else bytes x) rest

theorem poke_append (bytes : Location → Option UInt8) (l l' : List (Location × UInt8)) :
    poke bytes (l ++ l') = poke (poke bytes l) l' := by
  induction l generalizing bytes with
  | nil => rfl
  | cons x l ih => rw [List.cons_append, poke, ih, poke]

/-- There is a byte at an address if there was one. -/
theorem isSome_poke (bytes : Location → Option UInt8) (l : List (Location × UInt8)) (a : Location) :
    (poke bytes l a).isSome = (bytes a).isSome := by
  induction l generalizing bytes with
  | nil => rfl
  | cons x l ih =>
      rcases x with ⟨b, byte⟩
      rw [poke, ih]
      by_cases ha : a = b
      · rw [if_pos ha, Option.isSome_map, ha]
      · rw [if_neg ha]

/-- What lies at other addresses stays. -/
theorem poke_of_not_mem {bytes : Location → Option UInt8} {l : List (Location × UInt8)}
    {a : Location} (h : ∀ x ∈ l, x.1 ≠ a) : poke bytes l a = bytes a := by
  induction l generalizing bytes with
  | nil => rfl
  | cons x l ih =>
      rcases x with ⟨b, byte⟩
      -- The first byte goes elsewhere too, so what it leaves at `a` is what was there.
      rw [poke, ih fun y hy => h y (List.mem_cons_of_mem _ hy),
        if_neg (Ne.symm (h (b, byte) List.mem_cons_self))]

theorem zip_append_take {α β : Type} (a b : List α) (l : List β) :
    (a ++ b).zip l = a.zip (l.take a.length) ++ b.zip (l.drop a.length) := by
  induction a generalizing l with
  | nil => rfl
  | cons x a ih =>
      cases l with
      | nil => simp
      | cons y l => simp [ih]

namespace Region

/-- The addresses of the bytes of a region, in order. -/
def places (r : Region) : List Location := (List.range' r.offset r.length).map (r.cell, ·)

/-- The addresses of the bytes of several regions, laid end to end. -/
def addresses (rs : List Region) : List Location := rs.flatMap places

@[simp] theorem addresses_nil : addresses [] = [] := rfl

@[simp] theorem addresses_cons (r : Region) (rs : List Region) :
    addresses (r :: rs) = r.places ++ addresses rs := List.flatMap_cons

@[simp] theorem length_places (r : Region) : r.places.length = r.length := by
  rw [places, List.length_map, List.length_range']

@[simp] theorem length_addresses (rs : List Region) : (addresses rs).length = span rs := by
  induction rs with
  | nil => rfl
  | cons r rs ih => rw [addresses_cons, List.length_append, length_places, ih, span_cons]

theorem mem_places {r : Region} {a : Location} :
    a ∈ r.places ↔ a.1 = r.cell ∧ r.offset ≤ a.2 ∧ a.2 < r.offset + r.length := by
  rcases a with ⟨cell, offset⟩
  rw [places, List.mem_map]
  constructor
  · rintro ⟨k, hk, hsame⟩
    cases hsame
    rw [List.mem_range'_1] at hk
    exact ⟨rfl, hk⟩
  · rintro ⟨rfl, hk⟩
    exact ⟨offset, List.mem_range'_1.mpr hk, rfl⟩

theorem mem_addresses {rs : List Region} {a : Location} :
    a ∈ addresses rs ↔ ∃ r ∈ rs, a ∈ r.places := List.mem_flatMap

/-- Part of a region has part of its addresses. -/
theorem places_slice (r : Region) {index length : Nat} (h : index + length ≤ r.length) :
    (r.slice index length).places = (r.places.drop index).take length := by
  -- On both sides it is a row of numbers from the same one on; one row is cut off the other.
  have htake : List.range' (r.offset + index) length =
      (List.range' (r.offset + index) (r.length - index)).take length := by
    obtain ⟨rest, hrest⟩ := Nat.exists_eq_add_of_le (Nat.le_sub_of_add_le' h)
    rw [hrest, ← List.range'_append, List.take_left' List.length_range']
  rw [places, places, ← List.map_drop, ← List.map_take, slice_cell, slice_offset, slice_length,
    List.drop_range', Nat.mul_one, htake]

/-- Regions without a byte have no addresses. -/
theorem addresses_filter (rs : List Region) :
    addresses (rs.filter fun r => 0 < r.length) = addresses rs := by
  induction rs with
  | nil => rfl
  | cons r rs ih =>
      rw [List.filter_cons]
      by_cases hr : 0 < r.length
      · rw [if_pos (decide_eq_true hr), addresses_cons, addresses_cons, ih]
      · have hnone : r.places = [] := List.eq_nil_of_length_eq_zero (by
          rw [length_places]
          omega)
        rw [if_neg (by simpa using hr), addresses_cons, ih, hnone, List.nil_append]

/-- A stretch of a list of regions is a stretch of its addresses. -/
theorem addresses_clip (rs : List Region) (index length : Nat) :
    addresses (clip rs index length) = ((addresses rs).drop index).take length := by
  induction rs generalizing index length with
  | nil => simp [clip]
  | cons r rs ih =>
      rw [clip, addresses_cons, List.drop_append, length_places]
      -- Either the stretch begins behind this region, or it begins in it.
      by_cases hskip : r.length ≤ index
      · have hnone : r.places.drop index = [] :=
          List.drop_eq_nil_of_le (by rwa [length_places])
        rw [if_pos hskip, ih, hnone, List.nil_append]
      · rw [if_neg hskip, show index - r.length = 0 by omega, List.drop_zero]
        have hleft : (r.places.drop index).length = r.length - index := by
          rw [List.length_drop, length_places]
        by_cases hzero : length = 0
        · rw [if_pos hzero, hzero, List.take_zero, addresses_nil]
        · rw [if_neg hzero, List.take_append, hleft]
          by_cases hlast : length ≤ r.length - index
          · rw [if_pos hlast, show length - (r.length - index) = 0 by omega, List.take_zero,
              addresses_cons, addresses_nil, places_slice r (by omega)]
          · -- The stretch goes on in the regions after this one.
            rw [if_neg hlast, addresses_cons, ih, List.drop_zero, places_slice r (by omega),
              List.take_of_length_le (Nat.le_of_eq hleft),
              List.take_of_length_le (i := length) (by rw [hleft]; omega)]

end Region

open Region

namespace Memory

/-- The byte at an address. -/
def byte? (m : Memory) (a : Location) : Option UInt8 := (m.cell a.1)[a.2]?

theorem isSome_byte? {m : Memory} {a : Location} :
    (m.byte? a).isSome = true ↔ a.2 < (m.cell a.1).size := by
  rw [byte?, isSome_getElem?]

/-- There is a byte at an address only if there is such a cell. -/
theorem lt_size_of_byte? {m : Memory} {a : Location} (h : (m.byte? a).isSome = true) :
    a.1 < m.cells.size := by
  rw [isSome_byte?] at h
  refine Nat.lt_of_not_le fun hcell => ?_
  -- A cell that is not there counts as one without bytes.
  rw [cell, Array.getD_eq_getD_getElem?, Array.getElem?_eq_none hcell] at h
  exact Nat.not_lt_zero _ h

/-- A region fits if there is a byte at each of its addresses. -/
theorem byte?_of_fits {m : Memory} {rs : List Region} (h : ∀ r ∈ rs, r.Fits m) {a : Location}
    (ha : a ∈ addresses rs) : (m.byte? a).isSome = true := by
  rcases mem_addresses.mp ha with ⟨r, hr, hplace⟩
  rcases mem_places.mp hplace with ⟨hcell, -, hlt⟩
  rw [isSome_byte?, hcell]
  exact Nat.lt_of_lt_of_le hlt (h r hr)

/-! ### Reading -/

theorem take_drop_eq_filterMap {α : Type} (l : List α) (start count : Nat) :
    (l.drop start).take count = (List.range' start count).filterMap (l[·]?) := by
  induction count generalizing start with
  | zero => rfl
  | succ count ih =>
      rw [List.range'_succ, List.filterMap_cons, ← ih (start + 1)]
      -- Past the end of the list both sides are empty, and they stay so.
      by_cases hstart : start < l.length
      · rw [List.getElem?_eq_getElem hstart, List.drop_eq_getElem_cons hstart]
        rfl
      · rw [List.getElem?_eq_none (by omega), List.drop_eq_nil_of_le (by omega),
          List.drop_eq_nil_of_le (by omega), List.take_nil, List.take_nil]

theorem loadRegion_eq_filterMap (m : Memory) (r : Region) :
    m.loadRegion r = r.places.filterMap m.byte? := by
  rw [loadRegion, Array.toList_extract, List.extract_eq_take_drop, Nat.add_sub_cancel_left,
    take_drop_eq_filterMap, places, List.filterMap_map]
  simp only [Array.getElem?_toList]
  rfl

/-- Reading goes from address to address. -/
theorem loadAll_eq_filterMap (m : Memory) (rs : List Region) :
    m.loadAll rs = (addresses rs).filterMap m.byte? := by
  induction rs with
  | nil => rfl
  | cons r rs ih =>
      -- The addresses of the first region come first, as its bytes do.
      rw [loadAll_cons, addresses_cons, List.filterMap_append, ih, loadRegion_eq_filterMap]

theorem load_eq_filterMap (m : Memory) (rs : List Region) (index length : Nat) :
    m.load rs index length = (((addresses rs).drop index).take length).filterMap m.byte? := by
  rw [load, loadAll_eq_filterMap, addresses_clip]

/-- Looking at one index is looking at one address. -/
theorem byteAt_eq (m : Memory) (rs : List Region) (index : Nat) :
    m.byteAt rs index = ((addresses rs)[index]?).bind m.byte? := by
  induction rs generalizing index with
  | nil => rfl
  | cons r rs ih =>
      rw [byteAt, addresses_cons, List.getElem?_append, length_places]
      by_cases hin : index < r.length
      · have hrange : (List.range' r.offset r.length)[index]? = some (r.offset + index) := by
          rw [List.getElem?_range' hin, Nat.one_mul]
        rw [if_pos hin, if_pos hin, places, List.getElem?_map, hrange]
        rfl
      · rw [if_neg hin, if_neg hin, ih]

/-! ### Writing -/

/-- Writing into one region puts one byte after the other at its addresses. -/
theorem byte?_storeRegion (m : Memory) (r : Region) (src : Bytes) (h : src.length ≤ r.length) :
    (m.storeRegion r src).byte? = poke m.byte? (r.places.zip src) := by
  induction src generalizing m r with
  | nil =>
      funext a
      rw [List.zip_nil_right, byte?, cell_storeRegion]
      by_cases hcell : a.1 = r.cell
      · rw [if_pos hcell]
        rfl
      · rw [if_neg hcell]
        rfl
  | cons byte src ih =>
      rcases r with ⟨id, offset, length⟩
      obtain ⟨rest, rfl⟩ : ∃ rest, length = rest + 1 := ⟨length - 1, by
        change src.length + 1 ≤ length at h
        omega⟩
      -- The first byte goes in by itself, and the others go in behind it.
      have hplaces : places ⟨id, offset, rest + 1⟩ =
          (id, offset) :: places ⟨id, offset + 1, rest⟩ := by
        rw [places, List.range'_succ, List.map_cons]
        rfl
      have hfirst : (m.storeRegion ⟨id, offset, 1⟩ [byte]).byte? =
          fun x => if x = (id, offset) then (m.byte? (id, offset)).map fun _ => byte
            else m.byte? x := by
        funext x
        rcases x with ⟨cell, k⟩
        rw [byte?, cell_storeRegion]
        by_cases hcell : cell = id
        · subst hcell
          rw [if_pos rfl, overwrite, overwrite, Array.getElem?_setIfInBounds]
          by_cases hk : offset = k
          · subst hk
            rw [if_pos rfl, if_pos rfl, byte?]
            by_cases hin : offset < (m.cell cell).size
            · rw [if_pos hin, Array.getElem?_eq_getElem hin]
              rfl
            · rw [if_neg hin, Array.getElem?_eq_none (Nat.le_of_not_lt hin)]
              rfl
          · rw [if_neg hk, if_neg (fun he => hk (congrArg Prod.snd he).symm)]
            rfl
        · rw [if_neg hcell, if_neg (fun he => hcell (congrArg Prod.fst he))]
          rfl
      have hrest : (m.storeRegion ⟨id, offset, rest + 1⟩ (byte :: src)).byte? =
          ((m.storeRegion ⟨id, offset, 1⟩ [byte]).storeRegion
            ⟨id, offset + 1, rest⟩ src).byte? := by
        funext x
        rw [byte?, byte?, cell_storeRegion, cell_storeRegion, cell_storeRegion]
        by_cases hcell : x.1 = id
        · rw [if_pos hcell, if_pos hcell, if_pos hcell]
          rfl
        · rw [if_neg hcell, if_neg hcell, if_neg hcell]
      rw [hrest, ih _ _ (Nat.le_of_succ_le_succ h), hplaces, List.zip_cons_cons, poke, hfirst]

/-- Writing goes from address to address. -/
theorem byte?_storeAll (m : Memory) (rs : List Region) (src : Bytes) :
    (m.storeAll rs src).byte? = poke m.byte? ((addresses rs).zip src) := by
  induction rs generalizing m src with
  | nil => rfl
  | cons r rs ih =>
      -- The first region takes as many bytes as it has addresses, and the rest go on.
      rw [storeAll, ih, byte?_storeRegion m r _ (List.length_take_le _ _), addresses_cons,
        zip_append_take, length_places, poke_append]

theorem byte?_store (m : Memory) (rs : List Region) (index : Nat) (src : Bytes) :
    (m.store rs index src).byte? =
      poke m.byte? ((((addresses rs).drop index).take src.length).zip src) := by
  rw [store, byte?_storeAll, addresses_clip]

/-! ### New cells -/

/-- A new cell has the addresses of its own, and leaves those that have a byte as they are. -/
theorem byte?_alloc (m : Memory) (bytes : Array UInt8) (a : Location) :
    (m.alloc bytes).2.byte? a = if a.1 = m.cells.size then bytes[a.2]? else m.byte? a := by
  rw [byte?, cell_alloc]
  by_cases hcell : a.1 = m.cells.size
  · rw [if_pos hcell, if_pos hcell]
  · rw [if_neg hcell, if_neg hcell, byte?]

end Memory

end Conduit
