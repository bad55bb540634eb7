import Conduit.Proofs.Buffer.Bounds
import Mathlib.Data.List.Nodup
import Mathlib.Logic.Relator

/-!
# Mirrored Memories

Two memories mirror each other through a pairing of addresses if partners hold the
same byte. An address has at most one partner, and so whatever is written to
addresses on one side and to their partners on the other leaves partners equal.
That is all it takes to read and write the same on both sides: the regions that one
goes through have to lie at addresses on one side and at their partners, in the same
order, on the other.

How the regions are cut is left open. One region and several that are laid end to
end can be over partners, and only what tells regions apart can tell the difference.
Where that matters too, `Laid` takes the regions to be cut in the same places.

## Main definitions

* `Memory.Mirrors`: Partners hold the same byte.
* `Region.Laid`: Two lists of regions over partners.

## Theorems

* `biUnique_zip`: Two lists without repetition pair their members up.
* `poke_partner`: The same bytes put at partners.
* `Mirrors.load`, `Mirrors.byteAt`: What is read is the same on both sides.
* `Mirrors.isSome_byte?`, `Mirrors.fits`: What lies over partners is within its cells.
* `Mirrors.store`: Writing keeps memories mirrored.
* `Mirrors.extend`, `Mirrors.alloc`: New bytes can be given partners.
* `nodup_places`, `nodup_addresses`: Where no address comes twice.
* `map_byte?_alloc`: The bytes at the addresses of a new cell.
* `Laid.mono`, `Laid.span_eq`, `Laid.append`, `Laid.filter`: More partners, and regions
  that are added or left out.
* `Laid.map_length_clip`, `Laid.clip`: A stretch on one side, and the same stretch on the
  other.
* `Laid.pieces`: Each region by itself, where the cuts are the same.
-/

namespace Conduit

open Region List

/-- Which addresses of two memories are partners. -/
abbrev Pairing := Location → Location → Prop

/-- Two lists without repetition pair their members up. -/
theorem biUnique_zip {α β : Type} {as : List α} {bs : List β} (has : as.Nodup) (hbs : bs.Nodup) :
    Relator.BiUnique fun a b => (a, b) ∈ as.zip bs := by
  constructor
  · intro a a' b h h'
    rcases List.mem_iff_getElem.mp h with ⟨i, hi, hab⟩
    rcases List.mem_iff_getElem.mp h' with ⟨j, hj, hab'⟩
    rw [List.getElem_zip, Prod.mk.injEq] at hab hab'
    -- One member stands at one index, so the partners stand at that index too.
    have hsame := (hbs.getElem_inj_iff).mp (hab.2.trans hab'.2.symm)
    subst hsame
    exact hab.1.symm.trans hab'.1
  · intro a b b' h h'
    rcases List.mem_iff_getElem.mp h with ⟨i, hi, hab⟩
    rcases List.mem_iff_getElem.mp h' with ⟨j, hj, hab'⟩
    rw [List.getElem_zip, Prod.mk.injEq] at hab hab'
    have hsame := (has.getElem_inj_iff).mp (hab.1.trans hab'.1.symm)
    subst hsame
    exact hab.2.symm.trans hab'.2

/-- What lies at partners stays the same if the same bytes are put at partners. -/
theorem poke_partner {R : Pairing} (hR : Relator.BiUnique R) {f g : Location → Option UInt8}
    (hfg : ∀ a b, R a b → f a = g b) {as bs : List Location} (h : Forall₂ R as bs) (src : Bytes) :
    ∀ a b, R a b → poke f (as.zip src) a = poke g (bs.zip src) b := by
  induction h generalizing f g src with
  | nil => exact hfg
  | @cons x y as bs hxy _ ih =>
      cases src with
      | nil => exact hfg
      | cons byte src =>
          rw [List.zip_cons_cons, List.zip_cons_cons, poke, poke]
          refine ih (fun a b hab => ?_) src
          -- The address that is written to is the partner of the one that is, on both sides.
          by_cases ha : a = x
          · subst ha
            rw [if_pos rfl, if_pos (hR.2 hab hxy), hfg _ _ hxy]
          · have hb : b ≠ y := fun hb => ha (hR.1 (hb ▸ hab) hxy)
            rw [if_neg ha, if_neg hb, hfg _ _ hab]

namespace Memory

/-- Partners hold the same byte. -/
structure Mirrors (R : Pairing) (m n : Memory) : Prop where
  unique : Relator.BiUnique R
  bytes : ∀ a b, R a b → ∃ byte, m.byte? a = some byte ∧ n.byte? b = some byte

variable {R : Pairing} {m n m' n' : Memory}

/-- What is read from partners is the same. -/
theorem Mirrors.load (h : m.Mirrors R n) {rs ss : List Region}
    (hrs : Forall₂ R (addresses rs) (addresses ss)) (index length : Nat) :
    m.load rs index length = n.load ss index length := by
  -- There is a byte at every address that has a partner, so none is left out on either side.
  have hread : ∀ as bs, Forall₂ R as bs → as.filterMap m.byte? = bs.filterMap n.byte? := by
    intro as bs hab
    induction hab with
    | nil => rfl
    | cons hpair _ ih =>
        rcases h.bytes _ _ hpair with ⟨byte, hm, hn⟩
        rw [List.filterMap_cons_some hm, List.filterMap_cons_some hn, ih]
  rw [load_eq_filterMap, load_eq_filterMap]
  exact hread _ _ (forall₂_take length (forall₂_drop index hrs))

/-- There is a byte at every address that has a partner. -/
theorem Mirrors.isSome_byte? (h : m.Mirrors R n) {as bs : List Location} (hab : Forall₂ R as bs)
    {b : Location} (hb : b ∈ bs) : (n.byte? b).isSome = true := by
  rcases forall₂_iff_get.mp hab with ⟨hlength, hpairs⟩
  rcases List.mem_iff_get.mp hb with ⟨i, rfl⟩
  have hi : i < as.length := Nat.lt_of_lt_of_eq i.isLt hlength.symm
  rcases h.bytes _ _ (hpairs i hi i.isLt) with ⟨byte, -, hbyte⟩
  exact Option.isSome_iff_exists.mpr ⟨byte, hbyte⟩

/-- No region over partners reaches past its cell. It is enough to look at its last byte. -/
theorem Mirrors.fits (h : m.Mirrors R n) {rs ss : List Region}
    (hrs : Forall₂ R (addresses rs) (addresses ss)) {r : Region} (hr : r ∈ ss)
    (hpos : 0 < r.length) : r.Fits n := by
  have hlast : (r.cell, r.offset + r.length - 1) ∈ addresses ss :=
    mem_addresses.mpr ⟨r, hr, mem_places.mpr ⟨rfl, by omega, by omega⟩⟩
  have hsize : r.offset + r.length - 1 < (n.cell r.cell).size :=
    Memory.isSome_byte?.mp (h.isSome_byte? hrs hlast)
  rw [Region.Fits]
  omega

theorem Mirrors.byteAt (h : m.Mirrors R n) {rs ss : List Region}
    (hrs : Forall₂ R (addresses rs) (addresses ss)) (index : Nat) :
    m.byteAt rs index = n.byteAt ss index := by
  have hhead : ∀ as bs, Forall₂ R as bs → as.head?.bind m.byte? = bs.head?.bind n.byte? := by
    intro as bs hab
    cases hab with
    | nil => rfl
    | cons hpair _ =>
        rcases h.bytes _ _ hpair with ⟨byte, hm, hn⟩
        exact hm.trans hn.symm
  rw [byteAt_eq, byteAt_eq, ← List.head?_drop, ← List.head?_drop]
  exact hhead _ _ (forall₂_drop index hrs)

/-- Memories stay mirrored when the same bytes are written to partners. -/
theorem Mirrors.store (h : m.Mirrors R n) {rs ss : List Region}
    (hrs : Forall₂ R (addresses rs) (addresses ss)) (index : Nat) (src : Bytes) :
    (m.store rs index src).Mirrors R (n.store ss index src) where
  unique := h.unique
  bytes := by
    intro a b hab
    have hsame : ∀ a b, R a b → m.byte? a = n.byte? b := fun a b hab => by
      rcases h.bytes a b hab with ⟨byte, hm, hn⟩
      exact hm.trans hn.symm
    -- Writing takes no byte away.
    have hthere : (m.store rs index src |>.byte? a).isSome = true := by
      rcases h.bytes a b hab with ⟨byte, hm, -⟩
      rw [byte?_store, isSome_poke, hm]
      rfl
    obtain ⟨byte, hbyte⟩ := Option.isSome_iff_exists.mp hthere
    refine ⟨byte, hbyte, ?_⟩
    rw [← hbyte, byte?_store, byte?_store]
    exact (poke_partner h.unique hsame (forall₂_take _ (forall₂_drop index hrs)) src a b hab).symm

/-- Addresses of bytes that were not there before can be made partners. -/
theorem Mirrors.extend (h : m.Mirrors R n) (hm : m.Becomes [] m') (hn : n.Becomes [] n')
    {as bs : List Location} {bytes : Bytes} (has : as.Nodup) (hbs : bs.Nodup)
    (hnewl : ∀ a ∈ as, m.cells.size ≤ a.1) (hnewr : ∀ b ∈ bs, n.cells.size ≤ b.1)
    (hl : as.map m'.byte? = bytes.map some) (hr : bs.map n'.byte? = bytes.map some) :
    m'.Mirrors (fun a b => R a b ∨ (a, b) ∈ as.zip bs) n' where
  unique := by
    -- Old partners lie in cells that were there, new ones in cells that were not.
    have hold : ∀ {a b}, R a b → a.1 < m.cells.size ∧ b.1 < n.cells.size := by
      intro a b hab
      rcases h.bytes a b hab with ⟨byte, hma, hnb⟩
      exact ⟨lt_size_of_byte? (by rw [hma]; rfl), lt_size_of_byte? (by rw [hnb]; rfl)⟩
    have hnew : ∀ {a b}, (a, b) ∈ as.zip bs → m.cells.size ≤ a.1 ∧ n.cells.size ≤ b.1 :=
      fun hab => ⟨hnewl _ (List.of_mem_zip hab).1, hnewr _ (List.of_mem_zip hab).2⟩
    constructor
    · rintro a a' b (hab | hab) (hab' | hab')
      · exact h.unique.1 hab hab'
      · exact absurd (hold hab).2 (Nat.not_lt_of_le (hnew hab').2)
      · exact absurd (hold hab').2 (Nat.not_lt_of_le (hnew hab).2)
      · exact (biUnique_zip has hbs).1 hab hab'
    · rintro a b b' (hab | hab) (hab' | hab')
      · exact h.unique.2 hab hab'
      · exact absurd (hold hab).1 (Nat.not_lt_of_le (hnew hab').1)
      · exact absurd (hold hab').1 (Nat.not_lt_of_le (hnew hab).1)
      · exact (biUnique_zip has hbs).2 hab hab'
  bytes := by
    rintro a b (hab | hab)
    · rcases h.bytes a b hab with ⟨byte, hma, hnb⟩
      have ha := lt_size_of_byte? (m := m) (a := a) (by rw [hma]; rfl)
      have hb := lt_size_of_byte? (m := n) (a := b) (by rw [hnb]; rfl)
      exact ⟨byte, (hm.frame a ha List.not_mem_nil).trans hma,
        (hn.frame b hb List.not_mem_nil).trans hnb⟩
    · rcases List.mem_iff_getElem.mp hab with ⟨k, hk, hpair⟩
      rw [List.getElem_zip, Prod.mk.injEq] at hpair
      have hlen : as.length = bytes.length := by simpa using congrArg List.length hl
      rw [List.length_zip] at hk
      have hk' : k < bytes.length := by omega
      have hleft := congrArg (·[k]?) hl
      have hright := congrArg (·[k]?) hr
      simp only [List.getElem?_map, List.getElem?_eq_getElem hk',
        List.getElem?_eq_getElem (Nat.lt_of_lt_of_le hk (Nat.min_le_left _ _)),
        List.getElem?_eq_getElem (Nat.lt_of_lt_of_le hk (Nat.min_le_right _ _)),
        Option.map_some, Option.some.injEq, hpair.1, hpair.2] at hleft hright
      exact ⟨bytes[k], hleft, hright⟩

end Memory

namespace Region

variable {cut : Prop} {R R' : Pairing} {rs ss rs' ss' : List Region}

theorem nodup_places (r : Region) : r.places.Nodup :=
  (List.nodup_range').map fun _ _ h => congrArg Prod.snd h

/-- Regions that are apart have no address in common, and none comes twice. -/
theorem nodup_addresses {rs : List Region} (h : rs.Pairwise Apart) : (addresses rs).Nodup := by
  induction rs with
  | nil => exact List.nodup_nil
  | cons r rs ih =>
      rcases List.pairwise_cons.mp h with ⟨hfirst, hrest⟩
      rw [addresses_cons]
      refine List.nodup_append'.mpr ⟨nodup_places r, ih hrest, fun a ha ha' => ?_⟩
      rcases mem_addresses.mp ha' with ⟨s, hs, ha'⟩
      rcases mem_places.mp ha with ⟨hcell, hlow, hhigh⟩
      -- An address of both would lie in one cell, past the end of one region and before the other.
      rcases mem_places.mp ha' with ⟨hcell', hlow', hhigh'⟩
      rcases hfirst s hs with hother | hbefore | hbehind
      · exact hother (hcell.symm.trans hcell')
      · omega
      · omega

/-- The bytes at the addresses of a new cell are those that it was made with. -/
theorem map_byte?_alloc (m : Memory) (bytes : Array UInt8) :
    (m.alloc bytes).1.places.map (m.alloc bytes).2.byte? = bytes.toList.map some := by
  refine List.ext_getElem? fun k => ?_
  have hbytes : bytes.toList[k]? = bytes[k]? := Array.getElem?_toList
  rw [places, List.map_map, List.getElem?_map, List.getElem?_map, hbytes]
  change Option.map _ (List.range' 0 bytes.size)[k]? = _
  by_cases hk : k < bytes.size
  · -- The k-th address is the k-th place of the cell that is new.
    rw [List.getElem?_range' hk, Array.getElem?_eq_getElem hk]
    change some ((m.alloc bytes).2.byte? (m.cells.size, 0 + 1 * k)) = some (some bytes[k])
    rw [Memory.byte?_alloc, if_pos rfl, Nat.zero_add, Nat.one_mul, Array.getElem?_eq_getElem hk]
  · rw [List.getElem?_eq_none (by rw [List.length_range']; omega),
      Array.getElem?_eq_none (by omega)]
    rfl

/-- Two lists of regions over partners; if `cut`, then both are cut in the same places. -/
structure Laid (cut : Prop) (R : Pairing) (rs ss : List Region) : Prop where
  places : Forall₂ R (addresses rs) (addresses ss)
  cuts : cut → rs.map (·.length) = ss.map (·.length)

namespace Laid

theorem mono (h : Laid cut R rs ss) (hR : Subrelation R R') : Laid cut R' rs ss :=
  ⟨h.places.imp fun _ _ => hR, h.cuts⟩

theorem span_eq (h : Laid cut R rs ss) : span ss = span rs := by
  rw [← length_addresses, ← length_addresses, h.places.length_eq]

theorem append (h : Laid cut R rs ss) (h' : Laid cut R rs' ss') :
    Laid cut R (rs ++ rs') (ss ++ ss') where
  places := by
    rw [addresses, addresses, List.flatMap_append, List.flatMap_append]
    exact List.rel_append h.places h'.places
  cuts := fun hcut => by rw [List.map_append, List.map_append, h.cuts hcut, h'.cuts hcut]

theorem filter (h : Laid cut R rs ss) :
    Laid cut R (rs.filter fun r => 0 < r.length) (ss.filter fun r => 0 < r.length) where
  places := by
    rw [addresses_filter, addresses_filter]
    exact h.places
  cuts := fun hcut => by
    have hmap : ∀ ts : List Region, (ts.filter fun r => 0 < r.length).map (·.length) =
        (ts.map (·.length)).filter fun n => 0 < n := fun ts => by
      rw [List.filter_map]
      rfl
    rw [hmap, hmap, h.cuts hcut]

theorem map_length_clip (h : rs.map (·.length) = ss.map (·.length)) (index length : Nat) :
    (clip rs index length).map (·.length) = (clip ss index length).map (·.length) := by
  induction rs generalizing ss index length with
  | nil =>
      rw [List.map_eq_nil_iff.mp h.symm]
  | cons r rs ih =>
      cases ss with
      | nil => exact nomatch h
      | cons s ss =>
          rw [List.map_cons, List.map_cons, List.cons.injEq] at h
          -- Where to cut is decided by lengths alone, and they are the same on both sides.
          rw [clip, clip, ← h.1]
          by_cases hskip : r.length ≤ index
          · rw [if_pos hskip, if_pos hskip, ih h.2]
          · rw [if_neg hskip, if_neg hskip]
            by_cases hzero : length = 0
            · rw [if_pos hzero, if_pos hzero]
            · rw [if_neg hzero, if_neg hzero]
              by_cases hlast : length ≤ r.length - index
              · rw [if_pos hlast, if_pos hlast]
                rfl
              · rw [if_neg hlast, if_neg hlast, List.map_cons, List.map_cons, ih h.2]
                rfl

theorem clip (h : Laid cut R rs ss) (index length : Nat) :
    Laid cut R (clip rs index length) (clip ss index length) where
  places := by
    rw [addresses_clip, addresses_clip]
    exact forall₂_take length (forall₂_drop index h.places)
  cuts := fun hcut => map_length_clip (h.cuts hcut) index length

/-- Where regions are cut in the same places, each of them is laid over partners. -/
theorem pieces (h : Laid cut R rs ss) (hcut : cut) :
    Forall₂ (fun r s => Laid cut R [r] [s]) rs ss := by
  have hcuts := h.cuts hcut
  have hplaces := h.places
  clear h
  induction rs generalizing ss with
  | nil => rw [List.map_eq_nil_iff.mp hcuts.symm]; exact Forall₂.nil
  | cons r rs ih =>
      cases ss with
      | nil => exact nomatch hcuts
      | cons s ss =>
          rw [List.map_cons, List.map_cons, List.cons.injEq] at hcuts
          rw [addresses_cons, addresses_cons] at hplaces
          -- The first regions are as long as each other, so their addresses come off both lists.
          have hhead := forall₂_take r.length hplaces
          have htail := forall₂_drop r.length hplaces
          rw [List.take_left' (length_places r),
            List.take_left' ((length_places s).trans hcuts.1.symm)] at hhead
          rw [List.drop_left' (length_places r),
            List.drop_left' ((length_places s).trans hcuts.1.symm)] at htail
          refine Forall₂.cons ⟨?_, fun _ => ?_⟩ (ih hcuts.2 htail)
          · rw [addresses_cons, addresses_cons, addresses_nil, List.append_nil, List.append_nil]
            exact hhead
          · rw [List.map_singleton, List.map_singleton, hcuts.1]

end Laid

end Region

/-- A new cell on both sides, with the same bytes. -/
theorem Memory.Mirrors.alloc {R : Pairing} {m n : Memory} (h : m.Mirrors R n)
    (bytes : Array UInt8) :
    ∃ R' : Pairing, Subrelation R R' ∧ (m.alloc bytes).2.Mirrors R' (n.alloc bytes).2 ∧
      ∀ cut, Laid cut R' [(m.alloc bytes).1] [(n.alloc bytes).1] := by
  refine ⟨_, fun hab => Or.inl hab,
    h.extend (Memory.becomes_alloc [] m bytes) (Memory.becomes_alloc [] n bytes)
      (nodup_places (m.alloc bytes).1) (nodup_places (n.alloc bytes).1)
      (fun a ha => Nat.le_of_eq (mem_places.mp ha).1.symm)
      (fun b hb => Nat.le_of_eq (mem_places.mp hb).1.symm)
      (map_byte?_alloc m bytes) (map_byte?_alloc n bytes), fun cut => ⟨?_, fun _ => rfl⟩⟩
  rw [addresses_cons, addresses_cons, addresses_nil, List.append_nil, List.append_nil,
    List.forall₂_iff_zip]
  refine ⟨?_, fun hab => Or.inr hab⟩
  rw [length_places, length_places]
  rfl

end Conduit
