import Conduit.Buffer.Call
import Conduit.Proofs.Buffer.Image

/-!
# Every Byte Is Where It Is Looked For

Storage is reached without a check, and a stretch that is not there is a fault. This
says what reaching for a stretch comes to that is there: nothing is reached for
outside a window or outside a cell, and what is read, written or taken as a view is
what `Region.clip` says.

Several windows are where the work is. The search through the places where they
start has to find the region that the first byte lies in, also where the stretch
starts right at a boundary; from there each region is left at its end and the next
one entered at its start, until the stretch is through. The walk visits pieces, and
they are the pieces of `Region.clip` whatever is done with them, so that is said once
for any visit and then used for reading, for writing and for taking views.

## Main definitions

* `Region.visitAll`: The pieces of a stretch, visited in order.
* `Buffer.Rests`: The cursors are in order, and no window reaches past its cell.

## Theorems

* `Region.reach_of_fits`: A stretch of a window that is there is found.
* `Region.read_of_fits`, `Region.write_of_fits`, `Region.fill_of_fits`,
  `Region.moveToFront_of_fits`: What is done with one.
* `Region.clip_filter`, `Region.span_filter`, `Region.clip_singleton`: Regions that are
  empty, and the only region there is.
* `Region.visitAll_ok`, `Region.visitAll_store`: Visits that read, and visits that write.
* `Components.lay_cons`, `Components.capacity_ofRegions`: Where regions start, and where
  the last of them ends.
* `Components.search_self`, `Components.search_above`, `Components.search_cons`,
  `Components.search_lay`: The search finds the region that a byte lies in.
* `Components.Visits.suffix`: Visits of later regions.
* `Components.walkFrom_through`, `Components.walkFrom_cons`, `Components.walkFrom_last`,
  `Components.walkFrom_eq`: Walking on from a byte of a region.
* `Components.walk_eq`: Walking over a stretch visits what it clips to.
* `Components.read_eq`, `Components.write_eq`, `Components.decompose_eq`: So reading,
  writing and taking views come to what is said in terms of `clip`.
* `storage_cases`, `capacity_storage`: Storage by its three forms.
* `Rests.solid`, `Rests.fits_heap`: Several windows and one, of a buffer that rests.
* `Rests.length_peek`, `Rests.exists_byteAt`: What the buffer shows.
* `Rests.read`, `Rests.write`, `Rests.fill`: Reading and writing through storage.
* `Rests.regions`, `Rests.moveToFront`: Views, and moving bytes to the front.
-/

namespace Conduit

open Procedure

variable {α : Type} {m : Memory}

/-! ### One window -/

namespace Region

variable {r : Region} {index length : Nat}

/-- A stretch of a window that is there is found. -/
theorem reach_of_fits (h : r.Fits m) (hin : index + length ≤ r.length) :
    (r.reach index length).run m = (.ok (r.slice index length), m) := by
  unfold Fits at h
  rw [reach, run_state_bind]
  dsimp only
  rw [if_neg (by omega), if_neg (by omega), run_pure]

theorem read_of_fits (h : r.Fits m) (hin : index + length ≤ r.length) :
    (r.read index length).run m = (.ok (m.loadRegion (r.slice index length)), m) := by
  rw [read, bind_of_ok (reach_of_fits h hin), run_state_bind, run_pure]

theorem write_of_fits {src : Bytes} (h : r.Fits m) (hin : index + src.length ≤ r.length) :
    (r.write index src).run m = (.ok (), m.storeRegion (r.slice index src.length) src) := by
  rw [write, bind_of_ok (reach_of_fits h hin), run_alter]

theorem fill_of_fits (h : r.Fits m) (hin : index + length ≤ r.length) (value : UInt8) :
    (r.fill index length value).run m =
      (.ok (), m.storeRegion (r.slice index length) (List.replicate length value)) := by
  rw [fill, bind_of_ok (reach_of_fits h hin), run_alter]

theorem moveToFront_of_fits {start stop : Nat} (h : r.Fits m) (horder : start ≤ stop)
    (hin : stop ≤ r.length) :
    (r.moveToFront start stop).run m =
      (.ok (), m.storeRegion (r.slice 0 (stop - start))
        (m.loadRegion (r.slice start (stop - start)))) := by
  rw [moveToFront, bind_of_ok (minus_of_le horder m),
    bind_of_ok (reach_of_fits h (by omega)), bind_of_ok (reach_of_fits h (by omega)), run_alter]

/-- Clipping takes no notice of regions that are empty. -/
theorem clip_filter (rs : List Region) (index length : Nat) :
    clip (rs.filter fun r => 0 < r.length) index length = clip rs index length := by
  induction rs generalizing index length with
  | nil => rfl
  | cons r rs ih =>
      by_cases hr : 0 < r.length
      · rw [List.filter_cons_of_pos (by simpa using hr)]
        -- A region that is kept is clipped in the same way, and the later ones by induction.
        simp only [clip, ih]
      · rw [List.filter_cons_of_neg (by simpa using hr), ih, clip, if_pos (by omega),
          show index - r.length = index by omega]

theorem span_filter (rs : List Region) : span (rs.filter fun r => 0 < r.length) = span rs := by
  induction rs with
  | nil => rfl
  | cons r rs ih =>
      by_cases hr : 0 < r.length
      · rw [List.filter_cons_of_pos (by simpa using hr), span_cons, ih, span_cons]
      · rw [List.filter_cons_of_neg (by simpa using hr), ih, span_cons]
        omega

/-- A stretch of the only region there is. -/
theorem clip_singleton {index length : Nat} (hin : index + length ≤ r.length) (hsome : length ≠ 0) :
    clip [r] index length = [r.slice index length] := by
  rw [clip, if_neg (by omega), if_neg hsome, if_pos (by omega)]

/-- The pieces of a stretch, visited in order. Each visit is told how much was visited
    before. -/
def visitAll (visit : Region → Nat → Access α) : List Region → (done : Nat) → Access (List α)
  | [], _ => pure []
  | p :: ps, done => do
    let a ← visit p done
    let as ← visitAll visit ps (done + p.length)
    return a :: as

/-- Visits that give something and leave memory as it is. -/
theorem visitAll_ok {visit : Region → Nat → Access α} {f : Region → α}
    (h : ∀ p done, (visit p done).run m = (.ok (f p), m)) (ps : List Region) (done : Nat) :
    (visitAll visit ps done).run m = (.ok (ps.map f), m) := by
  induction ps generalizing done with
  | nil => rfl
  | cons p ps ih => rw [visitAll, bind_of_ok (h p done), bind_of_ok (ih _), run_pure, List.map_cons]

/-- Visits that write what belongs to each piece. -/
theorem visitAll_store (src : Bytes) (ps : List Region) (done : Nat) (m : Memory) :
    (visitAll (fun p done =>
        alter (·.storeRegion p ((src.drop done).take p.length))) ps done).run m =
      (.ok (ps.map fun _ => ()), m.storeAll ps (src.drop done)) := by
  induction ps generalizing done m with
  | nil => rfl
  | cons p ps ih =>
      rw [visitAll, run_alter_bind, bind_of_ok (ih _ _), run_pure, Memory.storeAll, List.drop_drop,
        List.map_cons]

end Region

/-! ### Several windows -/

namespace Components

open Region

variable {rs : List Region} {r : Region} {base offset index length done : Nat}

theorem lay_cons (start : Nat) (r : Region) (rs : List Region) :
    (lay start (r :: rs)).1 = start :: (lay (start + r.length) rs).1 := rfl

theorem capacity_ofRegions (rs : List Region) : (ofRegions rs).capacity = span rs := by
  have hlay : ∀ rs start, (lay start rs).2 = start + span rs := by
    intro rs
    induction rs with
    | nil => exact fun start => rfl
    | cons r rs ih =>
        intro start
        change (lay (start + r.length) rs).2 = _
        rw [ih, span_cons, Nat.add_assoc]
  exact (hlay rs 0).trans (Nat.zero_add _)

/-! The place of a number in an ascending list moves on with every element below it. -/

theorem search_self (x : Nat) (xs : List Nat) : search (x :: xs) x = .inl 0 := by
  simp [search]

theorem search_above {x y : Nat} {xs : List Nat} (h : ∀ z ∈ xs.head?, y < z) (hx : x < y) :
    search (x :: xs) y = .inr 1 := by
  cases xs with
  | nil => simp [search, hx]
  | cons z zs =>
      have hz : y < z := h z rfl
      simp [search, hx, Nat.not_lt_of_gt hz, Nat.ne_of_gt hz]

theorem search_cons {x y : Nat} (xs : List Nat) (hx : x < y) :
    search (x :: xs) y = (search xs y).map (· + 1) (· + 1) := by
  simp only [search, List.takeWhile_cons, decide_eq_true hx, if_true, List.length_cons,
    List.getElem?_cons_succ]
  split <;> rfl

/-- The search finds the region that a byte lies in, whether or not the region starts with
    it, and the stretch is cut out of the regions from there on. -/
theorem search_lay (hsolid : ∀ r ∈ rs, 0 < r.length) (hlow : base ≤ index)
    (hhigh : index < base + span rs) :
    ∃ i r rest offset,
      (search (lay base rs).1 index = .inl i ∨ search (lay base rs).1 index = .inr (i + 1)) ∧
      rs.drop i = r :: rest ∧
      (lay base rs).1.drop i = offset :: (lay (offset + r.length) rest).1 ∧
      offset ≤ index ∧ index < offset + r.length ∧ offset + span (r :: rest) = base + span rs ∧
      ∀ length, clip rs (index - base) length = clip (r :: rest) (index - offset) length := by
  induction rs generalizing base with
  | nil => exact absurd hhigh (by rw [span_nil]; omega)
  | cons r rs ih =>
      have hr := hsolid r List.mem_cons_self
      rw [span_cons] at hhigh
      by_cases hhere : index < base + r.length
      · -- The next region starts later, if there is one.
        refine ⟨0, r, rs, base, ?_, rfl, rfl, hlow, hhere, rfl, fun _ => rfl⟩
        -- The byte is the first of the region, and its start is found; or it is not, and the place
        -- is found where the next region starts.
        rcases Nat.eq_or_lt_of_le hlow with rfl | hlow
        · exact Or.inl (search_self _ _)
        · refine Or.inr (search_above (fun z hz => ?_) hlow)
          cases rs with
          | nil => exact absurd hz (by simp [lay])
          | cons s rs =>
              rw [lay_cons, List.head?_cons, Option.mem_some_iff] at hz
              exact hz ▸ hhere
      · rcases ih (fun s hs => hsolid s (List.mem_cons_of_mem r hs)) (Nat.le_of_not_lt hhere)
          (by omega) with
          ⟨i, s, rest, offset, hfound, hdrop, hoffsets, hbelow, habove, hspan, hclip⟩
        refine ⟨i + 1, s, rest, offset, ?_, hdrop, hoffsets, hbelow, habove,
          by rw [hspan, span_cons, Nat.add_assoc], fun length => ?_⟩
        · -- The region starts below the byte, so everything found behind it is one place further.
          rw [lay_cons, search_cons _ (by omega)]
          exact hfound.imp (fun h => by rw [h]; rfl) (fun h => by rw [h]; rfl)
        · rw [clip, if_pos (by omega), ← hclip length, Nat.sub_sub]

/-- Visits of pieces within their regions, which are visits of the pieces alone. They are so
    on memories of a kind that visiting keeps. -/
structure Visits (P : Memory → Prop) (rs : List Region)
    (visit : Region → Nat → Nat → Nat → Access α) (alone : Region → Nat → Access α) : Prop where
  pieces : ∀ r ∈ rs, ∀ m, P m → ∀ index length done, 0 < length → index + length ≤ r.length →
    (visit r index length done).run m = (alone (r.slice index length) done).run m
  keeps : ∀ m, P m → ∀ p done, P ((alone p done).run m).2

variable {P : Memory → Prop} {visit : Region → Nat → Nat → Nat → Access α}
  {alone : Region → Nat → Access α}

theorem Visits.suffix {rest : List Region} (h : Visits P rs visit alone)
    (hrest : ∀ s ∈ rest, s ∈ rs) : Visits P rest visit alone :=
  ⟨fun s hs => h.pieces s (hrest s hs), h.keeps⟩

/-- Where a stretch is through, there is nothing left to visit. -/
theorem walkFrom_through (hdone : length ≤ done) (rest : List (Region × Nat)) :
    walkFrom visit rest index length done = pure [] := by
  cases rest <;> rw [walkFrom, if_neg (Nat.not_lt.mpr hdone)]

/-- The visit of one piece, and the rest. -/
theorem walkFrom_cons (hbelow : offset ≤ index) (hin : index < offset + r.length)
    (hmore : done < length) (rest : List (Region × Nat)) (m : Memory) {n : Nat}
    (hn : n = min (r.length - (index - offset)) (length - done)) :
    (walkFrom visit ((r, offset) :: rest) index length done).run m =
      (do
        let a ← visit r (index - offset) n done
        let as ← walkFrom visit rest (index + n) length (done + n)
        return a :: as).run m := by
  rw [walkFrom, if_pos hmore, bind_of_ok (minus_of_le hbelow m),
    bind_of_ok (minus_of_le (by omega) m)]
  dsimp only
  rw [← hn]

/-- A stretch that ends in the region where it starts is one piece. -/
theorem walkFrom_last (hvisits : Visits P (r :: rs) visit alone) (hm : P m)
    (hbelow : offset ≤ index) (hmore : done < length)
    (hhere : index - offset + (length - done) ≤ r.length) (rest : List (Region × Nat)) :
    (walkFrom visit ((r, offset) :: rest) index length done).run m =
      (visitAll alone [r.slice (index - offset) (length - done)] done).run m := by
  rw [walkFrom_cons hbelow (by omega) hmore _ _ rfl, Nat.min_eq_right (by omega),
    walkFrom_through (by omega), visitAll, run_bind, run_bind,
    hvisits.pieces r List.mem_cons_self m hm _ _ _ (by omega) hhere]
  rfl

/-- Walking on from a byte of a region visits what the stretch clips to. The region is left at
    its end, and the next one is entered at its start. -/
theorem walkFrom_eq (hsolid : ∀ s ∈ r :: rs, 0 < s.length)
    (hvisits : Visits P (r :: rs) visit alone) (hm : P m) (hbelow : offset ≤ index)
    (hin : index < offset + r.length) (hmore : done < length)
    (hspan : index - offset + (length - done) ≤ span (r :: rs)) :
    (walkFrom visit ((r, offset) :: rs.zip (lay (offset + r.length) rs).1) index length
        done).run m =
      (visitAll alone (clip (r :: rs) (index - offset) (length - done)) done).run m := by
  induction rs generalizing r offset index done m with
  | nil =>
      rw [span_cons, span_nil] at hspan
      rw [walkFrom_last hvisits hm hbelow hmore (by omega), clip_singleton (by omega) (by omega)]
  | cons s rs ih =>
      rw [clip, if_neg (by omega), if_neg (by omega)]
      -- Either the stretch ends in this region, or all of the region from here on belongs to it.
      by_cases hhere : length - done ≤ r.length - (index - offset)
      · rw [if_pos hhere, walkFrom_last hvisits hm hbelow hmore (by omega)]
      rw [if_neg hhere, walkFrom_cons hbelow hin hmore _ _ rfl, Nat.min_eq_left (by omega),
        visitAll, run_bind, run_bind,
        hvisits.pieces r List.mem_cons_self m hm _ _ _ (by omega) (by omega)]
      have hkeeps :=
        hvisits.keeps m hm (r.slice (index - offset) (r.length - (index - offset))) done
      generalize (alone (r.slice (index - offset) (r.length - (index - offset))) done).run m = x
        at hkeeps
      rcases x with ⟨halt | a, m'⟩
      · rfl
      · -- The next region starts where this one ends.
        have hs := hsolid s (List.mem_cons_of_mem r List.mem_cons_self)
        rw [span_cons] at hspan
        dsimp only
        rw [show index + (r.length - (index - offset)) = offset + r.length by omega, slice_length,
          lay_cons, List.zip_cons_cons, run_bind, run_bind,
          ih (fun t ht => hsolid t (List.mem_cons_of_mem r ht))
            (hvisits.suffix fun t ht => List.mem_cons_of_mem r ht) hkeeps (Nat.le_refl _)
            (by omega) (by omega) (by omega), Nat.sub_self,
          show length - (done + (r.length - (index - offset))) =
            length - done - (r.length - (index - offset)) by omega]

/-- Walking over a stretch visits what it clips to. -/
theorem walk_eq (hsolid : ∀ r ∈ rs, 0 < r.length) (hvisits : Visits P rs visit alone) (hm : P m)
    (hin : index + length ≤ span rs) (hsome : 0 < length) :
    ((ofRegions rs).walk index length visit).run m =
      (visitAll alone (clip rs index length) 0).run m := by
  rcases search_lay hsolid (Nat.zero_le index) (by omega) with
    ⟨i, r, rest, offset, hfound, hdrop, hoffsets, hbelow, habove, hspan, hclip⟩
  have hlocate : ((ofRegions rs).locate index).run m = (.ok i, m) := by
    have hsearch : search (ofRegions rs).offsets index = .inl i ∨
        search (ofRegions rs).offsets index = .inr (i + 1) := hfound
    -- Where a place was found and not a start, the region is the one before it.
    rw [locate]
    rcases hsearch with h | h
    · rw [h]
      rfl
    · rw [h]
      exact minus_of_le (Nat.le_add_left 1 i) m
  have hmem : ∀ s ∈ r :: rest, s ∈ rs := fun s hs => List.mem_of_mem_drop (hdrop ▸ hs)
  -- The walk sets out from the region that was found, with its start.
  have hzip : ((ofRegions rs).regions.zip (ofRegions rs).offsets).drop i =
      (r, offset) :: rest.zip (lay (offset + r.length) rest).1 := by
    change (rs.zip (lay 0 rs).1).drop i = _
    rw [List.zip, List.drop_zipWith, hdrop, hoffsets]
    rfl
  rw [walk, if_neg (by omega), bind_of_ok hlocate, hzip,
    walkFrom_eq (fun s hs => hsolid s (hmem s hs)) (hvisits.suffix hmem) hm hbelow habove hsome
      (by omega), ← hclip, Nat.sub_zero, Nat.sub_zero]

/-- No region is empty, and none reaches past its cell. -/
def Solid (m : Memory) (rs : List Region) : Prop := ∀ r ∈ rs, 0 < r.length ∧ r.Fits m

theorem read_eq (h : Solid m rs) (hin : index + length ≤ span rs) (hsome : 0 < length) :
    ((ofRegions rs).read index length).run m = (.ok (m.loadAll (clip rs index length)), m) := by
  have hvisits : Visits (fun m' => m' = m) rs (fun region skipped n _ => region.read skipped n)
      (fun p _ => (do return (← state).loadRegion p : Access Bytes)) := by
    refine ⟨fun r hr m' hm' i n _ _ hn => ?_, fun _ hm' _ _ => hm'⟩
    subst hm'
    rw [read_of_fits (h r hr).2 hn]
    rfl
  have hwalk := (walk_eq (fun r hr => (h r hr).1) hvisits rfl hin hsome).trans
    (visitAll_ok (fun _ _ => rfl) _ _)
  rw [Components.read, bind_of_ok hwalk, run_pure, Memory.loadAll_eq_flatMap, List.flatMap]

theorem write_eq {src : Bytes} (h : Solid m rs) (hin : index + src.length ≤ span rs)
    (hsome : 0 < src.length) :
    ((ofRegions rs).write index src).run m =
      (.ok (), m.storeAll (clip rs index src.length) src) := by
  have hvisits : Visits (Solid · rs) rs
      (fun region skipped n done => region.write skipped ((src.drop done).take n))
      (fun p done => alter (·.storeRegion p ((src.drop done).take p.length))) := by
    -- A visit writes to a cell, which keeps its size, so the regions still fit at the next one.
    refine ⟨fun r hr m' hm' i n done _ hn => ?_, fun m' hm' p done r hr => ⟨(hm' r hr).1, ?_⟩⟩
    · have hlength := List.length_take_le n (src.drop done)
      rw [write_of_fits (hm' r hr).2 (by omega)]
      rfl
    · have hfits := (hm' r hr).2
      rw [Fits] at hfits ⊢
      rwa [run_alter, Memory.size_cell_storeRegion]
  have hwalk := (walk_eq (fun r hr => (h r hr).1) hvisits h hin hsome).trans
    (visitAll_store src _ 0 m)
  rw [Components.write, bind_of_ok hwalk, run_pure, List.drop_zero]

theorem decompose_eq (h : ∀ r ∈ rs, 0 < r.length) (hin : index + length ≤ span rs)
    (hsome : 0 < length) :
    ((ofRegions rs).decompose index length).run m = (.ok (clip rs index length), m) := by
  have hvisits : Visits (fun _ => True) rs
      (fun region skipped n _ => (pure (region.slice skipped n) : Access Region))
      (fun p _ => pure p) := ⟨fun _ _ _ _ _ _ _ _ _ => rfl, fun _ _ _ _ => trivial⟩
  rw [Components.decompose, walk_eq h hvisits trivial hin hsome, visitAll_ok fun _ _ => rfl,
    List.map_id']

end Components

/-! ### The storage of a buffer -/

namespace Buffer

open Region

variable {b : Buffer} {index length : Nat}

/-- The cursors are in order, and no window with bytes in it reaches past its cell. -/
structure Rests (b : Buffer) (m : Memory) : Prop where
  valid : b.Valid
  fits : ∀ r ∈ b.regions, 0 < r.length → r.Fits m

/-- What is said of storage, by its three forms. -/
theorem storage_cases (b : Buffer) :
    b.regions = [] ∧ b.storage = .empty ∨ (∃ r, b.regions = [r] ∧ b.storage = .heap r) ∨
      b.storage = .composite (.ofRegions (b.regions.filter fun r => 0 < r.length)) := by
  rw [storage]
  rcases b.regions with _ | ⟨r, _ | ⟨s, rs⟩⟩
  · exact Or.inl ⟨rfl, rfl⟩
  · exact Or.inr (Or.inl ⟨r, rfl, rfl⟩)
  · exact Or.inr (Or.inr rfl)

@[simp] theorem capacity_storage (b : Buffer) : b.storage.capacity = b.capacity := by
  rw [capacity]
  rcases storage_cases b with ⟨hregions, h⟩ | ⟨r, hregions, h⟩ | h
  · rw [h, hregions]
    rfl
  · rw [h, hregions]
    rfl
  · rw [h, Storage.capacity, Components.capacity_ofRegions, span_filter]

namespace Rests

/-- Of the windows that are laid end to end, none is empty or reaches past its cell. -/
theorem solid (h : b.Rests m) :
    Components.Solid m (b.regions.filter fun r => 0 < r.length) := by
  intro r hr
  rcases List.mem_filter.mp hr with ⟨hmem, hpos⟩
  exact ⟨by simpa using hpos, h.fits r hmem (by simpa using hpos)⟩

/-- The only window there is, if it has bytes. -/
theorem fits_heap (h : b.Rests m) {r : Region} (hregions : b.regions = [r])
    (hin : index + length ≤ b.capacity) (hsome : length ≠ 0) :
    r.Fits m ∧ index + length ≤ r.length := by
  rw [capacity, hregions, span_cons, span_nil] at hin
  exact ⟨h.fits r (hregions ▸ List.mem_singleton_self r) (by omega), by omega⟩

/-- A buffer shows as many bytes as it is asked for. -/
theorem length_peek (h : b.Rests m) (hin : index + length ≤ b.capacity) :
    (b.peek m index length).length = length := by
  have hfits := fun r hr => (h.solid r hr).2
  rw [capacity, ← span_filter] at hin
  rw [peek, Memory.load, ← clip_filter]
  change (m.load _ index length).length = length
  rw [Memory.load_eq hfits, List.length_take, List.length_drop, Memory.length_loadAll hfits]
  omega

/-- What is read is what the buffer shows. -/
theorem read (h : b.Rests m) (hin : index + length ≤ b.capacity) :
    (b.storage.read index length).run m = (.ok (b.peek m index length), m) := by
  rw [Storage.read.eq_def, peek, Memory.load]
  by_cases hnone : length = 0
  · rw [if_pos hnone, hnone, clip_zero, run_pure, Memory.loadAll_nil]
  rw [if_neg hnone]
  rcases storage_cases b with ⟨hregions, hstorage⟩ | ⟨r, hregions, hstorage⟩ | hstorage
  · rw [capacity, hregions, span_nil] at hin
    omega
  · rcases h.fits_heap hregions hin hnone with ⟨hfits, hin⟩
    rw [hstorage, hregions, clip_singleton hin hnone, Memory.loadAll_cons, Memory.loadAll_nil,
      List.append_nil]
    exact read_of_fits hfits hin
  · rw [hstorage, ← clip_filter b.regions]
    exact Components.read_eq h.solid (by rwa [span_filter]) (Nat.pos_of_ne_zero hnone)

/-- A byte that is read alone is the one at its index. -/
theorem exists_byteAt {rs : List Region} (hfits : ∀ r ∈ rs, 0 < r.length → r.Fits m)
    (hin : index < span rs) :
    ∃ byte, m.loadAll (clip rs index 1) = [byte] ∧ m.byteAt rs index = some byte := by
  induction rs generalizing index with
  | nil => exact absurd hin (Nat.not_lt_zero _)
  | cons r rs ih =>
      rw [clip, Memory.byteAt]
      by_cases hhere : index < r.length
      · have hr := hfits r List.mem_cons_self (by omega)
        have hstart : r.offset + index < (m.cell r.cell).size := by
          rw [Fits] at hr
          omega
        refine ⟨(m.cell r.cell)[r.offset + index], ?_, ?_⟩
        · rw [if_neg (by omega), if_neg (by omega), if_pos (by omega), Memory.loadAll_cons,
            Memory.loadAll_nil, List.append_nil]
          -- One byte is there, so one byte is read, and it is the one at the place.
          have hlength : (m.loadRegion (r.slice index 1)).length = 1 :=
            Memory.length_loadRegion (by rw [Fits, slice_offset, slice_length]; exact hstart)
          refine List.ext_getElem? fun k => ?_
          rw [Memory.getElem?_loadRegion, slice_length, slice_offset, slice_cell]
          cases k with
          | zero => rw [if_pos Nat.zero_lt_one, Nat.add_zero, Array.getElem?_eq_getElem hstart]; rfl
          | succ k => rw [if_neg (by omega)]; rfl
        · rw [if_pos hhere, Array.getElem?_eq_getElem hstart]
      · rw [if_pos (by omega), if_neg hhere]
        rw [span_cons] at hin
        exact ih (fun s hs => hfits s (List.mem_cons_of_mem r hs)) (by omega)

/-- What is written is put where the buffer shows it. -/
theorem write (h : b.Rests m) {src : Bytes} (hin : index + src.length ≤ b.capacity) :
    (b.storage.write index src).run m = (.ok (), m.store b.regions index src) := by
  rw [Storage.write.eq_def, Memory.store]
  by_cases hnone : src.length = 0
  · rw [List.length_eq_zero_iff.mp hnone, List.length_nil, clip_zero]
    rfl
  rw [if_neg (by simpa using hnone)]
  rcases storage_cases b with ⟨hregions, hstorage⟩ | ⟨r, hregions, hstorage⟩ | hstorage
  · rw [capacity, hregions, span_nil] at hin
    omega
  · rcases h.fits_heap hregions hin hnone with ⟨hfits, hin⟩
    rw [hstorage, hregions, clip_singleton hin hnone, Memory.storeAll, Memory.storeAll,
      slice_length, List.take_length]
    exact write_of_fits hfits hin
  · rw [hstorage, ← clip_filter b.regions]
    exact Components.write_eq h.solid (by rwa [span_filter]) (Nat.pos_of_ne_zero hnone)

theorem fill (h : b.Rests m) (hin : index + length ≤ b.capacity) (value : UInt8) :
    (b.storage.fill index length value).run m =
      (.ok (), m.store b.regions index (List.replicate length value)) := by
  have hsrc : index + (List.replicate length value).length ≤ b.capacity := by
    rwa [List.length_replicate]
  have hwrite := h.write hsrc
  rcases storage_cases b with ⟨-, hstorage⟩ | ⟨r, hregions, hstorage⟩ | hstorage
  · rw [hstorage] at hwrite ⊢
    exact hwrite
  · rw [hstorage] at hwrite ⊢
    rw [Storage.fill]
    by_cases hnone : length = 0
    · rw [if_neg (by omega), hwrite]
    · -- In place, and to the same effect.
      rcases h.fits_heap hregions hin hnone with ⟨hfits, hin⟩
      rw [if_pos (by omega), fill_of_fits hfits hin, Memory.store, hregions, List.length_replicate,
        clip_singleton hin hnone, Memory.storeAll, Memory.storeAll, slice_length,
        List.take_of_length_le (Nat.le_of_eq List.length_replicate)]
  · rw [hstorage] at hwrite ⊢
    exact hwrite

/-- The windows of a stretch are what it clips to. -/
theorem regions (h : b.Rests m) (hin : index + length ≤ b.capacity) :
    (b.storage.regions index length).run m = (.ok (clip b.regions index length), m) := by
  rw [Storage.regions.eq_def]
  by_cases hnone : length = 0
  · rw [if_pos hnone, hnone, clip_zero, run_pure]
  rw [if_neg hnone]
  rcases storage_cases b with ⟨hregions, hstorage⟩ | ⟨r, hregions, hstorage⟩ | hstorage
  · rw [capacity, hregions, span_nil] at hin
    omega
  · rw [hstorage, hregions, clip_singleton (h.fits_heap hregions hin hnone).2 hnone]
    rfl
  · rw [hstorage, ← clip_filter b.regions]
    exact Components.decompose_eq (fun r hr => (h.solid r hr).1) (by rwa [span_filter])
      (Nat.pos_of_ne_zero hnone)

/-- Moving in place and putting aside come to the same. -/
theorem moveToFront (h : b.Rests m) {start stop : Nat} (horder : start ≤ stop)
    (hin : stop ≤ b.capacity) (hsome : start ≠ stop) :
    (b.storage.moveToFront start stop).run m =
      (.ok (), m.store b.regions 0 (b.peek m start (stop - start))) := by
  have hstretch : start + (stop - start) ≤ b.capacity := by omega
  have hlength := h.length_peek hstretch
  have haside : (do
      let length ← minus stop start
      let unread ← b.storage.read start length
      b.storage.write 0 unread : Access Unit).run m =
        (.ok (), m.store b.regions 0 (b.peek m start (stop - start))) := by
    rw [bind_of_ok (minus_of_le horder m), bind_of_ok (h.read hstretch), h.write (by omega)]
  rcases storage_cases b with ⟨-, hstorage⟩ | ⟨r, hregions, hstorage⟩ | hstorage
  · rw [hstorage] at haside ⊢
    exact haside
  · -- In place: what the window shows goes to its start.
    rcases h.fits_heap hregions hstretch (by omega) with ⟨hfits, hin⟩
    have hpeek : b.peek m start (stop - start) = m.loadRegion (r.slice start (stop - start)) := by
      rw [peek, Memory.load, hregions, clip_singleton hin (by omega), Memory.loadAll_cons,
        Memory.loadAll_nil, List.append_nil]
    rw [hstorage, Memory.store, hlength, hregions, clip_singleton (by omega) (by omega),
      Memory.storeAll, Memory.storeAll, slice_length, List.take_of_length_le (Nat.le_of_eq hlength),
      hpeek]
    exact moveToFront_of_fits hfits horder (by omega)
  · rw [hstorage] at haside ⊢
    exact haside

end Rests

end Buffer

end Conduit
