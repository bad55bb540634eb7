import Conduit.Proofs.Buffer.Bounds

/-!
# Strokes

What an operation on a buffer writes, byte by byte. Every operation that writes does so
in one stroke: bytes put one after the other, from an index on. Some find room for them
first, by moving the buffer into a larger cell of its own.

`Buffer.Step` says which addresses an operation may have written to. That is not enough
to say what another buffer sees afterwards, so `Buffer.Strikes` says which bytes went
where. A buffer may look at one address through several indices, and then the last of
them that a stroke covers has the say.

## Main definitions

* `Stroke`: Bytes that are written from an index on.
* `Buffer.place?`: Where a byte of a buffer lies.
* `Buffer.Rehoused`: A buffer is where it was, or in a larger cell of its own.
* `Buffer.Strikes`: A buffer is rehoused and then written to in one stroke.
* `Buffer.setting`, `Buffer.appending`, `Buffer.prepending`: The strokes of the operations.

## Theorems

* `not_covers_nil`: An empty stroke covers no index.
* `poke_last`: The last byte that is put at an address stays there.
* `mem_written`: An address with its byte, among those that are written.
* `byte?_store_untouched`, `byte?_store_last`: What is at an address afterwards.
* `byteAt_store_untouched`, `byteAt_store_last`: What is seen of bytes that were written.
* `isSome_byteAt_store`: A byte is seen in the same places as before.
* `Becomes.byteAt_eq`, `Becomes.loadAll_eq`: What is not written to goes on standing.
* `getElem?_loadAll`: What is read is what is seen index by index.
* `isSome_place?`: There is a place for each index below the capacity.
* `Backed.isSome_byteAt`, `Backed.content_becomes`, `Backed.getElem?_peek`: What a backed
  buffer sees.
* `Rehoused.stays`, `Rehoused.beside`: A buffer that stays where it is.
* `Rehoused.moves`: A buffer that moves takes its bytes along.
* `Strikes.fresh`, `Strikes.same`: A buffer that has grown lies elsewhere; another does not.
* `Strikes.own`: What a buffer has not moved away from was its own.
* `Strikes.inside`: A stroke stays within the buffer.
* `strikes_nothing`, `strikes_store`: An operation that writes nothing, and one that writes
  to the buffer where it lies.
* `rehoused_reallocate`, `rehoused_ensureWritable`: Growth rehouses a buffer.
* `strikes_ensureWritable`, `strikes_ensureWritableBytes`: Growth alone writes nothing.
* `strikes_discardReadBytes`: A compaction writes the content, from the front on.
* `strikes_setBytes`, `strikes_setZero`: The operations that are told an index.
* `strikes_write`, `strikes_writeZero`: The operations that append.
* `min_writableBytes_forced`: A request that is forced finds as much room as there can be.
* `strikes_writeAhead`, `strikes_writeZeroAhead`: The operations that put bytes in front.
-/

namespace Conduit

open Region

/-- Bytes that are written one after the other, from an index on. -/
structure Stroke where
  index : Nat := 0
  bytes : Bytes := []
  deriving DecidableEq, Repr, Inhabited

namespace Stroke

/-- A byte is written at the index. -/
def Covers (s : Stroke) (k : Nat) : Prop := s.index ≤ k ∧ k < s.index + s.bytes.length

/-- The byte that is written at an index. -/
def byte? (s : Stroke) (k : Nat) : Option UInt8 :=
  if s.index ≤ k then s.bytes[k - s.index]? else none

theorem not_covers_nil (index k : Nat) : ¬ Covers ⟨index, []⟩ k := by
  rintro ⟨hlow, hhigh⟩
  rw [List.length_nil] at hhigh
  omega

end Stroke

/-- The last byte that is put at an address stays there. -/
theorem poke_last {bytes : Location → Option UInt8} {l l' : List (Location × UInt8)}
    {a : Location} {byte : UInt8} (hbyte : (bytes a).isSome = true) (h : ∀ x ∈ l', x.1 ≠ a) :
    poke bytes (l ++ (a, byte) :: l') a = some byte := by
  rw [poke_append, poke, poke_of_not_mem h, if_pos rfl]
  rw [← isSome_poke bytes l a] at hbyte
  rcases Option.isSome_iff_exists.mp hbyte with ⟨old, hold⟩
  rw [hold, Option.map_some]

namespace Memory

variable {m : Memory} {rs own : List Region} {index i k : Nat} {src : Bytes} {a : Location}

/-- An address with its byte, among those that are written. -/
theorem mem_written {x : Location × UInt8} {j : Nat}
    (hx : ((((addresses rs).drop index).take src.length).zip src)[j]? = some x) :
    j < src.length ∧ (addresses rs)[index + j]? = some x.1 ∧ src[j]? = some x.2 := by
  rcases List.getElem?_zip_eq_some.mp hx with ⟨hplace, hbyte⟩
  have hj : j < src.length := (List.getElem?_eq_some_iff.mp hbyte).1
  rw [List.getElem?_take_of_lt hj, List.getElem?_drop] at hplace
  exact ⟨hj, hplace, hbyte⟩

theorem byte?_store_untouched
    (h : ∀ k, index ≤ k → k < index + src.length → (addresses rs)[k]? ≠ some a) :
    (m.store rs index src).byte? a = m.byte? a := by
  rw [byte?_store]
  refine poke_of_not_mem fun x hx hxa => ?_
  rcases List.getElem?_of_mem hx with ⟨j, hj⟩
  rcases mem_written hj with ⟨hlt, hplace, -⟩
  exact h (index + j) (Nat.le_add_right _ _) (Nat.add_lt_add_left hlt _) (hxa ▸ hplace)

theorem byte?_store_last (hlow : index ≤ k) (hhigh : k < index + src.length)
    (hplace : (addresses rs)[k]? = some a)
    (hlast : ∀ k', k < k' → k' < index + src.length → (addresses rs)[k']? ≠ some a)
    (hbyte : (m.byte? a).isSome = true) :
    (m.store rs index src).byte? a = src[k - index]? := by
  obtain ⟨j, rfl⟩ := Nat.exists_eq_add_of_le hlow
  have hj : j < src.length := Nat.lt_of_add_lt_add_left hhigh
  have hwritten : ((((addresses rs).drop index).take src.length).zip src)[j]? =
      some (a, src[j]) :=
    List.getElem?_zip_eq_some.mpr ⟨by
      rw [List.getElem?_take_of_lt hj, List.getElem?_drop, hplace], List.getElem?_eq_getElem hj⟩
  rw [byte?_store, Nat.add_sub_cancel_left, List.getElem?_eq_getElem hj]
  generalize hl : (((addresses rs).drop index).take src.length).zip src = l at hwritten ⊢
  -- The list is cut at the write in question, and `poke_last` wants none after it to go there.
  rcases List.getElem?_eq_some_iff.mp hwritten with ⟨hjl, hget⟩
  rw [← List.take_append_drop j l, List.drop_eq_getElem_cons hjl, hget]
  refine poke_last hbyte fun x hx hxa => ?_
  -- What comes after it is written at a later index.
  rcases List.getElem?_of_mem hx with ⟨n, hn⟩
  rw [List.getElem?_drop, ← hl] at hn
  rcases mem_written hn with ⟨hlt, hlater, -⟩
  exact hlast (index + (j + 1 + n)) (by omega) (by omega) (hxa ▸ hlater)

/-- A byte is seen as it was through any index that denotes nothing that was written. -/
theorem byteAt_store_untouched
    (h : ∀ k, index ≤ k → k < index + src.length → (addresses own)[k]? ≠ (addresses rs)[i]?) :
    (m.store own index src).byteAt rs i = m.byteAt rs i := by
  rw [byteAt_eq, byteAt_eq]
  cases hplace : (addresses rs)[i]? with
  | none => rfl
  | some a => exact byte?_store_untouched fun k hlow hhigh => hplace ▸ h k hlow hhigh

/-- Through an index that denotes the same address as one that was written, the byte is seen
    that was written there last. -/
theorem byteAt_store_last (hlow : index ≤ k) (hhigh : k < index + src.length)
    (hplace : (addresses own)[k]? = (addresses rs)[i]?)
    (hlast : ∀ k', k < k' → k' < index + src.length → (addresses own)[k']? ≠ (addresses rs)[i]?)
    (hbyte : (m.byteAt rs i).isSome = true) :
    (m.store own index src).byteAt rs i = src[k - index]? := by
  rw [byteAt_eq] at hbyte ⊢
  cases hrs : (addresses rs)[i]? with
  | none =>
      rw [hrs] at hbyte
      exact nomatch hbyte
  | some a =>
      rw [hrs] at hbyte hplace hlast
      exact byte?_store_last hlow hhigh hplace hlast hbyte

/-- Writing goes by addresses, so a byte is seen in the same places as before. -/
theorem isSome_byteAt_store :
    ((m.store own index src).byteAt rs i).isSome = (m.byteAt rs i).isSome := by
  rw [byteAt_eq, byteAt_eq]
  cases (addresses rs)[i]? with
  | none => rfl
  | some a =>
      change ((m.store own index src).byte? a).isSome = (m.byte? a).isSome
      rw [byte?_store, isSome_poke]

/-- Bytes that are there are the same in what a memory becomes, unless they are overwritten. -/
theorem Becomes.byteAt_eq {m' : Memory} (h : m.Becomes [] m') (hfits : ∀ r ∈ rs, r.Fits m)
    (i : Nat) : m'.byteAt rs i = m.byteAt rs i := by
  rw [Memory.byteAt_eq, Memory.byteAt_eq]
  cases hplace : (addresses rs)[i]? with
  | none => rfl
  | some a =>
      have hthere := lt_size_of_byte? (byte?_of_fits hfits (List.mem_of_getElem? hplace))
      exact h.frame a hthere List.not_mem_nil

/-- Where nothing is written, the same bytes go on standing. -/
theorem Becomes.loadAll_eq {m' : Memory} (h : m.Becomes own m')
    (hfits : ∀ r ∈ rs, r.Fits m) (happart : ∀ a ∈ addresses own, a ∉ addresses rs) :
    m'.loadAll rs = m.loadAll rs := by
  rw [loadAll_eq_filterMap, loadAll_eq_filterMap]
  refine List.filterMap_congr fun a ha => h.frame a ?_ fun hown => happart a hown ha
  exact lt_size_of_byte? (byte?_of_fits hfits ha)

/-- What is read is what is seen index by index. -/
theorem getElem?_loadAll (hfits : ∀ r ∈ rs, r.Fits m) (i : Nat) :
    (m.loadAll rs)[i]? = m.byteAt rs i := by
  induction rs generalizing i with
  | nil => rfl
  | cons r rs ih =>
      have hr := length_loadRegion (hfits r List.mem_cons_self)
      rw [loadAll_cons, byteAt, List.getElem?_append, hr]
      -- The index is in the first region, or else it counts on in the others.
      by_cases hin : i < r.length
      · rw [if_pos hin, if_pos hin, getElem?_loadRegion, if_pos hin]
      · rw [if_neg hin, if_neg hin, ih fun s hs => hfits s (List.mem_cons_of_mem r hs)]

end Memory

namespace Buffer

/-- Where the byte at an index of a buffer lies. -/
def place? (b : Buffer) (i : Nat) : Option Location := (addresses b.regions)[i]?

/-- The regions of a buffer before bytes are written, and the memory: those it had, or those of
    a larger cell of its own that starts with the same bytes. -/
structure Rehoused (b : Buffer) (m : Memory) (rs : List Region) (mid : Memory) : Prop where
  becomes : m.Becomes [] mid
  kept : ∀ i < b.capacity, mid.byteAt rs i = m.byteAt b.regions i
  own : rs = b.regions ∨
    (b.capacity < Region.span rs ∧ ∀ a ∈ addresses rs, m.cells.size ≤ a.1)

/-- A buffer is rehoused and then written to in one stroke. -/
def Strikes (b : Buffer) (m : Memory) (b' : Buffer) (m' : Memory) (s : Stroke) : Prop :=
  ∃ mid, b.Rehoused m b'.regions mid ∧ m' = mid.store b'.regions s.index s.bytes ∧
    s.index + s.bytes.length ≤ b'.capacity

variable {b b' : Buffer} {m m' : Memory} {rs : List Region} {s : Stroke}

theorem isSome_place? {i : Nat} : (b.place? i).isSome = true ↔ i < b.capacity := by
  rw [place?, isSome_getElem?, length_addresses, capacity]

/-- Every byte of a buffer that is backed is there. -/
theorem Backed.isSome_byteAt (h : b.Backed m) {i : Nat} (hi : i < b.capacity) :
    (m.byteAt b.regions i).isSome = true := by
  rw [← isSome_place?] at hi
  rcases Option.isSome_iff_exists.mp hi with ⟨a, ha⟩
  rw [place?] at ha
  rw [Memory.byteAt_eq, ha]
  exact Memory.byte?_of_fits h.fits (List.mem_of_getElem? ha)

/-- What is done elsewhere does not show in a buffer, even if it is laid over a byte twice. -/
theorem Backed.content_becomes {own : List Region} (h : b.Backed m) (hm : m.Becomes own m')
    (happart : ∀ a ∈ addresses own, a ∉ addresses b.regions) : b.content m' = b.content m := by
  rw [content, content, peek, peek, Memory.load_eq h.fits, Memory.load_eq (h.becomes hm).fits,
    hm.loadAll_eq h.fits happart]

/-- What is read from an index on is seen there, one index after the other. -/
theorem Backed.getElem?_peek (h : b.Backed m) {index length k : Nat} (hk : k < length) :
    (b.peek m index length)[k]? = m.byteAt b.regions (index + k) := by
  rw [peek, Memory.load_eq h.fits, List.getElem?_take_of_lt hk, List.getElem?_drop,
    Memory.getElem?_loadAll h.fits]

namespace Rehoused

theorem stays (b : Buffer) (m : Memory) : b.Rehoused m b.regions m :=
  ⟨Memory.Becomes.refl _ _, fun _ _ => rfl, Or.inl rfl⟩

/-- A buffer stays where it is when something else takes a cell. -/
theorem beside {mid : Memory} (h : b.Backed m) (hmid : m.Becomes [] mid) :
    b.Rehoused m b.regions mid :=
  ⟨hmid, fun i _ => hmid.byteAt_eq h.fits i, Or.inl rfl⟩

/-- A buffer that moves takes its bytes along. -/
theorem moves {bytes : Array UInt8} (hmore : b.capacity < bytes.size)
    (hbytes : ∀ i < b.capacity, bytes[i]? = m.byteAt b.regions i) :
    b.Rehoused m [(m.alloc bytes).1] (m.alloc bytes).2 where
  becomes := Memory.becomes_alloc _ _ _
  kept := by
    intro i hi
    rw [← hbytes i hi, Memory.byteAt]
    change (if i < bytes.size then _ else _) = _
    rw [if_pos (Nat.lt_trans hi hmore), Memory.cell_alloc]
    change (if m.cells.size = m.cells.size then bytes else _)[0 + i]? = _
    rw [if_pos rfl, Nat.zero_add]
  own := by
    refine Or.inr ⟨hmore, fun a ha => ?_⟩
    rw [addresses_cons, addresses_nil, List.append_nil, mem_places] at ha
    exact Nat.le_of_eq ha.1.symm

end Rehoused

namespace Strikes

/-- A buffer that has grown lies in a cell that was not there before. -/
theorem fresh (h : b.Strikes m b' m' s) (hgrown : b.capacity < b'.capacity) {a : Location}
    (ha : a ∈ addresses b'.regions) : m.cells.size ≤ a.1 := by
  rcases h with ⟨mid, hhouse, -, -⟩
  rcases hhouse.own with hsame | ⟨-, hfresh⟩
  · rw [capacity, capacity, hsame] at hgrown
    exact absurd hgrown (Nat.lt_irrefl _)
  · exact hfresh a ha

/-- A buffer that has not grown lies where it lay. -/
theorem same (h : b.Strikes m b' m' s) (hnot : ¬ b.capacity < b'.capacity) :
    b'.regions = b.regions := by
  rcases h with ⟨mid, hhouse, -, -⟩
  rcases hhouse.own with hsame | ⟨hmore, -⟩
  · exact hsame
  · exact absurd hmore hnot

/-- Wherever it lies, what it has not moved away from was its own. -/
theorem own (h : b.Strikes m b' m' s) {a : Location} (ha : a ∈ addresses b'.regions)
    (hcell : a.1 < m.cells.size) : a ∈ addresses b.regions := by
  by_cases hgrown : b.capacity < b'.capacity
  · exact absurd (h.fresh hgrown ha) (Nat.not_le_of_lt hcell)
  · rwa [← h.same hgrown]

/-- Where a stroke covers an index, the buffer has a byte. -/
theorem inside (h : b.Strikes m b' m' s) {k : Nat} (hk : s.Covers k) : k < b'.capacity := by
  rcases h with ⟨mid, -, -, hin⟩
  exact Nat.lt_of_lt_of_le hk.2 hin

end Strikes

/-! ### The strokes of the operations -/

/-- What is written to set bytes from `index` on: all of them if they fit, and else none. -/
def setting (b : Buffer) (index : Nat) (src : Bytes) : Stroke :=
  if index + src.length ≤ b.capacity then ⟨index, src⟩ else {}

/-- What is written to append bytes: all of them if they fit under the ceiling, and else none. -/
def appending (b : Buffer) (src : Bytes) : Stroke :=
  if src.length ≤ b.maxWritableBytes then ⟨b.writer, src⟩ else {}

/-- What is written to put bytes before the reader: all of them if they fit, and else none. -/
def prepending (b : Buffer) (src : Bytes) : Stroke :=
  if src.length ≤ b.reader then ⟨b.reader - src.length, src⟩ else {}

/-- What is written to move the readable bytes to the front. -/
def discarding (b : Buffer) (m : Memory) : Stroke :=
  if b.reader = 0 then {} else ⟨0, b.content m⟩

/-- An operation that leaves memory and the regions of a buffer alone. -/
theorem strikes_nothing (hregions : b'.regions = b.regions) : b.Strikes m b' m {} :=
  ⟨m, hregions ▸ Rehoused.stays b m, (Memory.store_nil _ _ _).symm, Nat.zero_le _⟩

/-- An operation that writes to a buffer where it lies. -/
theorem strikes_store {index : Nat} {src : Bytes} (hregions : b'.regions = b.regions)
    (hin : index + src.length ≤ b.capacity) :
    b.Strikes m b' (m.store b.regions index src) ⟨index, src⟩ := by
  refine ⟨m, hregions ▸ Rehoused.stays b m, by rw [hregions], ?_⟩
  rw [capacity, hregions]
  exact hin

theorem rehoused_reallocate (h : b.Backed m) (capacity : Nat) :
    b.Rehoused m (b.reallocate m capacity).1.regions (b.reallocate m capacity).2 := by
  rw [Buffer.reallocate]
  by_cases hmore : capacity ≤ b.capacity
  · rw [if_pos hmore]
    exact Rehoused.stays b m
  · rw [if_neg hmore]
    -- The new cell starts with all that the buffer had, in its order, and is longer.
    have hlen : (b.peek m 0 b.capacity).length = b.capacity :=
      h.length_peek (Nat.le_of_eq (Nat.zero_add _))
    refine Rehoused.moves ?_ fun i hi => ?_
    · rw [Array.size_append, List.size_toArray, Array.size_replicate, hlen]
      omega
    · have hpeek : (b.peek m 0 b.capacity)[i]? = m.byteAt b.regions i := by
        rw [peek, Memory.load_eq h.fits, List.drop_zero, List.getElem?_take_of_lt hi,
          Memory.getElem?_loadAll h.fits]
      rw [Array.getElem?_append_left (by rwa [List.size_toArray, hlen]), List.getElem?_toArray,
        hpeek]

theorem rehoused_ensureWritable (h : b.Backed m) (wanted : Nat) (force : Bool) :
    b.Rehoused m (b.ensureWritable m wanted force).2.1.regions
      (b.ensureWritable m wanted force).2.2 := by
  rw [Buffer.ensureWritable]
  by_cases hfits : wanted ≤ b.writableBytes
  · rw [if_pos hfits]
    exact Rehoused.stays b m
  · rw [if_neg hfits]
    by_cases hroom : b.maxWritableBytes < wanted
    · rw [if_pos hroom]
      by_cases hforce : (!force || b.capacity == b.maxCapacity) = true
      · rw [if_pos hforce]
        exact Rehoused.stays b m
      · rw [if_neg hforce]
        exact rehoused_reallocate h _
    · rw [if_neg hroom]
      exact rehoused_reallocate h _

theorem strikes_ensureWritable (h : b.Backed m) (wanted : Nat) (force : Bool) :
    b.Strikes m (b.ensureWritable m wanted force).2.1 (b.ensureWritable m wanted force).2.2 {} :=
  ⟨_, rehoused_ensureWritable h wanted force, (Memory.store_nil _ _ _).symm, Nat.zero_le _⟩

theorem strikes_ensureWritableBytes (h : b.Backed m) (wanted : Nat) :
    Yields (fun result : Buffer × Memory => b.Strikes m result.1 result.2 {})
      (b.ensureWritableBytes m wanted) := by
  rw [Buffer.ensureWritableBytes]
  by_cases hfits : wanted ≤ b.writableBytes
  · rw [if_pos hfits]
    exact Yields.ok (strikes_nothing rfl)
  · rw [if_neg hfits]
    by_cases hroom : b.maxWritableBytes < wanted
    · rw [if_pos hroom]
      exact Yields.error
    · rw [if_neg hroom]
      exact Yields.ok ⟨_, rehoused_reallocate h _, (Memory.store_nil _ _ _).symm, Nat.zero_le _⟩

theorem strikes_discardReadBytes (h : b.Backed m) :
    b.Strikes m (b.discardReadBytes m).1 (b.discardReadBytes m).2 (b.discarding m) := by
  have hreader := h.valid.reader_le_writer
  have hwriter := h.valid.writer_le_capacity
  rw [Buffer.discardReadBytes, discarding]
  by_cases hzero : b.reader = 0
  · rw [if_pos hzero, if_pos hzero]
    exact strikes_nothing rfl
  · rw [if_neg hzero, if_neg hzero]
    refine strikes_store rfl ?_
    rw [h.length_content, readableBytes]
    omega

theorem strikes_setBytes (b : Buffer) (m : Memory) (index : Nat) (src : Bytes) :
    Yields (fun m' => b.Strikes m b m' (b.setting index src)) (b.setBytes m index src) :=
  (b.checkWindow_yields index src.length).bind fun _ hin => Yields.ok (by
    rw [setting, if_pos hin]
    exact strikes_store rfl hin)

theorem strikes_setZero (b : Buffer) (m : Memory) (index length : Nat) :
    b.Strikes m b (b.setZero m index length).2
      (b.setting index (List.replicate (min length (b.capacity - index)) 0)) := by
  rw [Buffer.setZero, setting, List.length_replicate]
  by_cases hin : index + min length (b.capacity - index) ≤ b.capacity
  · rw [if_pos hin]
    exact strikes_store rfl (by rwa [List.length_replicate])
  · -- There is nothing past the end of the buffer.
    rw [if_neg hin, show min length (b.capacity - index) = 0 by omega, List.replicate_zero,
      Memory.store_nil]
    exact strikes_nothing rfl

theorem strikes_write (h : b.Backed m) (src : Bytes) :
    b.Strikes m (b.write m src).2.1 (b.write m src).2.2 (b.appending src) := by
  have hwriter := h.valid.writer_le_capacity
  by_cases hnil : src = []
  · subst hnil
    rw [appending, if_pos (show ([] : Bytes).length ≤ b.maxWritableBytes from Nat.zero_le _)]
    exact ⟨m, Rehoused.stays b m, (Memory.store_nil _ _ _).symm, hwriter⟩
  · have hhouse := rehoused_ensureWritable h src.length false
    have hroomy := h.ensureWritable src.length false
    rw [Buffer.write, if_neg (by simpa using hnil), appending]
    rcases hroomy with ⟨v, rs, m', hensure, -, hv⟩
    rw [hensure] at hhouse ⊢
    -- Room is found exactly if the bytes fit under the ceiling.
    have hfound : v = .exhausted ↔ ¬ src.length ≤ b.maxWritableBytes := by
      have hcapacity := h.valid.capacity_le_max
      rw [Buffer.ensureWritable] at hensure
      rw [writableBytes, maxWritableBytes] at hensure
      rw [maxWritableBytes]
      constructor
      · rintro rfl hfits
        split at hensure
        · cases congrArg Prod.fst hensure
        · rw [if_neg (by omega)] at hensure
          cases congrArg Prod.fst hensure
      · intro hnot
        rw [if_neg (by omega), if_pos (by omega)] at hensure
        exact (congrArg Prod.fst hensure).symm
    cases v with
    | sufficient | grew =>
        have hfits := Decidable.not_not.mp fun hnot => Writability.noConfusion (hfound.mpr hnot)
        rw [if_pos hfits]
        exact ⟨m', hhouse, rfl, hv⟩
    | grewToMax =>
        rcases hv with ⟨hforce, -⟩
        cases hforce
    | exhausted =>
        rcases hv with ⟨rfl, rfl, -⟩
        rw [if_neg (hfound.mp rfl)]
        exact strikes_nothing rfl

/-- A request that is forced finds as much room as there can be. -/
theorem min_writableBytes_forced (h : b.Backed m) (length : Nat) :
    min length (b.ensureWritable m length true).2.1.writableBytes =
      min length b.maxWritableBytes := by
  have hwriter := h.valid.writer_le_capacity
  have hcapacity := h.valid.capacity_le_max
  rw [Buffer.ensureWritable]
  by_cases hfits : length ≤ b.writableBytes
  · rw [if_pos hfits]
    rw [writableBytes] at hfits
    change min length (b.capacity - b.writer) = min length (b.maxCapacity - b.writer)
    omega
  · rw [if_neg hfits]
    rw [writableBytes] at hfits
    by_cases hroom : b.maxWritableBytes < length
    · rw [if_pos hroom]
      -- At the ceiling nothing is made; below it the buffer is made as large as it may be.
      by_cases hfull : b.capacity = b.maxCapacity
      · rw [if_pos (by simp [hfull])]
        change min length (b.capacity - b.writer) = min length (b.maxCapacity - b.writer)
        rw [hfull]
      · rcases h.reallocate (Nat.le_refl b.maxCapacity) with ⟨rs, m', hrealloc, -, hspan⟩
        rw [if_neg (by simp [hfull]), hrealloc]
        change min length (Region.span rs - b.writer) = min length (b.maxCapacity - b.writer)
        rw [hspan, Nat.max_eq_right hcapacity]
    · rw [maxWritableBytes] at hroom
      have hgrown : b.writer + length ≤ b.grownCapacity (b.writer + length) :=
        Capacity.le_grown (by omega)
      rcases h.reallocate (Capacity.grown_le (b.writer + length) b.maxCapacity) with
        ⟨rs, m', hrealloc, -, hspan⟩
      rw [if_neg (by rwa [maxWritableBytes]), grownCapacity, hrealloc]
      rw [grownCapacity] at hgrown
      change min length (Region.span rs - b.writer) = min length (b.maxCapacity - b.writer)
      omega

theorem strikes_writeZero (h : b.Backed m) (length : Nat) :
    b.Strikes m (b.writeZero m length).2.1 (b.writeZero m length).2.2
      (b.appending (List.replicate (min length b.maxWritableBytes) 0)) := by
  -- The count that is written is read off after the growth; in the stroke it is told before.
  have hhouse := rehoused_ensureWritable h length true
  have hroom := min_writableBytes_forced h length
  rcases h.ensureWritable length true with ⟨v, rs, m', hensure, hstep, -⟩
  have hwriter : b.writer ≤ Region.span rs := hstep.backed.valid.writer_le_capacity
  rw [hensure] at hhouse hroom
  rw [appending, List.length_replicate, if_pos (Nat.min_le_right _ _), Buffer.writeZero, hensure,
    ← hroom]
  refine ⟨m', hhouse, rfl, ?_⟩
  rw [List.length_replicate]
  change b.writer + min length (Region.span rs - b.writer) ≤ Region.span rs
  omega

theorem strikes_writeAhead (h : b.Backed m) (src : Bytes) :
    Yields (fun result : Buffer × Memory =>
        b.Strikes m result.1 result.2 (b.prepending src))
      (b.writeAhead m src) := by
  have hreader := h.valid.reader_le_writer
  have hwriter := h.valid.writer_le_capacity
  rw [Buffer.writeAhead, prepending]
  by_cases hroom : b.reader < src.length
  · rw [if_pos hroom]
    exact Yields.error
  · rw [if_neg hroom, if_pos (Nat.le_of_not_lt hroom)]
    exact Yields.ok (strikes_store rfl (by omega))

theorem strikes_writeZeroAhead (h : b.Backed m) (length : Nat) :
    b.Strikes m (b.writeZeroAhead m length).2.1 (b.writeZeroAhead m length).2.2
      (b.prepending (List.replicate (min length b.reader) 0)) := by
  have hreader := h.valid.reader_le_writer
  have hwriter := h.valid.writer_le_capacity
  rw [prepending, List.length_replicate, if_pos (Nat.min_le_right _ _)]
  refine strikes_store rfl ?_
  rw [List.length_replicate]
  omega

end Buffer

end Conduit
