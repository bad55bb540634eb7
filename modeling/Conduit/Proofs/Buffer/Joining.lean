import Conduit.Proofs.Buffer.Stream
import Mathlib.Algebra.Ring.Nat

/-!
# Laying Buffers End to End

Several buffers can be made into one in two ways: by looking through all of their regions,
or by copying their bytes. Both take what can be read of each, in order, and both ask for
one byte order. A source with nothing to read has no say in that and adds nothing.

Whether the sources are themselves laid end to end cannot be told afterwards. What a buffer
adds are its `pieces`, none of them empty, and a buffer that is made of pieces adds just
these to the next. So all that matters of some sources is which pieces they have and which
orders are voiced, and on that two lists of sources may agree without being of the same
length. `Tantamount` says that they do. It holds between any sources and the one buffer that
is made of them, and from there follows for every way of wrapping first some and then all.

## Main definitions

* `Buffer.pieces`: The regions over which the readable bytes lie.
* `Buffer.Mixed`: Two sources differ in byte order.
* `Buffer.Joined`: What is promised of a view of several sources.
* `Buffer.Tantamount`: Two lists of sources that come to the same.
* `Buffer.Joins`: What is promised of several sources that are made into one buffer.
* `Nesting`: Buffers in groups within groups, and the ways to wrap them.

## Theorems

* `clip_whole`: The stretch from the first byte to the last is all of it.
* `pieces_pos`, `flatMap_pieces_pos`, `pieces_eq_nil`, `Valid.span_pieces`: What pieces are.
* `ofRegions_of_pos`, `ofRegions_single`, `pieces_ofRegions`: Views of regions none of which
  is empty.
* `content_eq_loadAll`, `loadAll_pieces`, `addresses_pieces`: The pieces have the content,
  and the addresses, of the sources.
* `mixed_iff`: Sources are mixed if two orders are voiced.
* `commonOrder_of_mixed`, `commonOrder_of_voices`, `commonOrder_of_silent`,
  `exists_commonOrder`, `not_mixed_of_commonOrder`, `order_of_commonOrder`: When there is an
  order in common, and which one it is.
* `wrapAll_of_mixed`, `wrapAll_of_order`, `wrapAll_joined`: What comes of wrapping sources.
* `content_copied`, `copyAll_of_mixed`, `copyAll_of_overflow`, `copyAll_of_fits`: And of
  copying them.
* `voices_append`, `Tantamount.append`, `Tantamount.mixed`, `Tantamount.commonOrder`,
  `Tantamount.wrapAll`: Sources that come to the same.
* `wrapAll_tantamount`: Sources, and what is made of them, come to the same.
* `Nesting.mixed_append_left`, `Nesting.mixed_append_right`: Sources that are mixed are so
  among others.
* `Nesting.comes_wrapAll`, `Nesting.wrap_comes`, `Nesting.wrapEach_comes`: What comes of
  groups.
* `Nesting.wrap_group`: Wrapping in groups is wrapping all at once.
* `joins`: What comes of any sources.
-/

namespace Conduit

namespace Region

/-- The stretch from the first byte to the last is all of it, if no region is empty. -/
theorem clip_whole {rs : List Region} (h : ∀ r ∈ rs, 0 < r.length) :
    clip rs 0 (span rs) = rs := by
  induction rs with
  | nil => rfl
  | cons r rs ih =>
      have hr := h r List.mem_cons_self
      have hrs := ih fun s hs => h s (List.mem_cons_of_mem r hs)
      have hself : r.slice 0 r.length = r := rfl
      rw [clip, span_cons, if_neg (by omega), if_neg (by omega), Nat.sub_zero,
        Nat.add_sub_cancel_left, hself, hrs]
      by_cases hlast : r.length + span rs ≤ r.length
      · -- Nothing is left for the other regions, so there are none.
        have hnone : rs = [] := by
          rw [← hrs, show span rs = 0 by omega, clip_zero]
        rw [if_pos hlast, hnone, span_nil, Nat.add_zero, hself]
      · rw [if_neg hlast]

end Region

open Region

namespace Buffer

variable {b w : Buffer} {bs cs sources : List Buffer} {m : Memory} {order : ByteOrder}

/-! ### Pieces -/

/-- The regions over which the readable bytes lie. -/
def pieces (b : Buffer) : List Region := clip b.regions b.reader b.readableBytes

theorem pieces_pos {r : Region} (hr : r ∈ b.pieces) : 0 < r.length := length_pos_of_mem_clip hr

theorem flatMap_pieces_pos {r : Region} (hr : r ∈ sources.flatMap pieces) : 0 < r.length := by
  rcases List.mem_flatMap.mp hr with ⟨b, -, hr⟩
  exact pieces_pos hr

theorem pieces_eq_nil (h : b.isReadable = false) : b.pieces = [] := by
  rw [isReadable, decide_eq_false_iff_not, Nat.not_lt, Nat.le_zero] at h
  rw [pieces, h, clip_zero]

theorem Valid.span_pieces (h : b.Valid) : span b.pieces = b.readableBytes :=
  span_clip b.regions b.reader b.readableBytes (h.reader_add_le (Nat.le_refl _))

/-- A view of regions none of which is empty. -/
theorem ofRegions_of_pos (order : ByteOrder) {rs : List Region} (h : ∀ r ∈ rs, 0 < r.length) :
    ofRegions order rs =
      { regions := rs, order := order, writer := span rs, maxCapacity := span rs } := by
  have hkept : rs.filter (fun r => 0 < r.length) = rs :=
    List.filter_eq_self.mpr fun r hr => decide_eq_true (h r hr)
  rw [ofRegions, hkept]

/-- One region makes a flat view, all of which can be read. -/
theorem ofRegions_single (order : ByteOrder) {r : Region} (h : 0 < r.length) :
    ofRegions order [r] =
      { regions := [r], order := order, writer := r.length, maxCapacity := r.length } :=
  ofRegions_of_pos order (List.forall_mem_singleton.mpr h)

/-- A view of regions none of which is empty has these for pieces. -/
theorem pieces_ofRegions (order : ByteOrder) {rs : List Region} (h : ∀ r ∈ rs, 0 < r.length) :
    (ofRegions order rs).pieces = rs := by
  rw [ofRegions_of_pos order h, pieces, readableBytes, Nat.sub_zero]
  exact clip_whole h

/-- The readable bytes are what the pieces span. -/
theorem content_eq_loadAll (b : Buffer) (m : Memory) : b.content m = m.loadAll b.pieces := rfl

theorem loadAll_pieces (sources : List Buffer) (m : Memory) :
    m.loadAll (sources.flatMap pieces) = sources.flatMap (·.content m) := by
  rw [Memory.loadAll_eq_flatMap, List.flatMap_assoc]
  simp only [content_eq_loadAll, Memory.loadAll_eq_flatMap]

theorem addresses_pieces (sources : List Buffer) :
    addresses (sources.flatMap pieces) =
      sources.flatMap fun b => ((addresses b.regions).drop b.reader).take b.readableBytes := by
  rw [addresses, List.flatMap_assoc]
  simp only [← addresses_clip]
  rfl

/-! ### The order in common -/

/-- A source with something to read has this order. -/
def Voices (sources : List Buffer) (order : ByteOrder) : Prop :=
  ∃ b ∈ sources, b.isReadable = true ∧ b.order = order

/-- Two sources with something to read differ in byte order. -/
def Mixed (sources : List Buffer) : Prop :=
  ∃ a ∈ sources, ∃ b ∈ sources,
    a.isReadable = true ∧ b.isReadable = true ∧ a.order ≠ b.order

instance (sources : List Buffer) : Decidable (Mixed sources) :=
  inferInstanceAs (Decidable (∃ a ∈ sources, ∃ b ∈ sources, _))

theorem mixed_iff : Mixed sources ↔
    ∃ order order', Voices sources order ∧ Voices sources order' ∧ order ≠ order' := by
  constructor
  · rintro ⟨a, ha, b, hb, hra, hrb, hne⟩
    exact ⟨a.order, b.order, ⟨a, ha, hra, rfl⟩, ⟨b, hb, hrb, rfl⟩, hne⟩
  · rintro ⟨_, _, ⟨a, ha, hra, rfl⟩, ⟨b, hb, hrb, rfl⟩, hne⟩
    exact ⟨a, ha, b, hb, hra, hrb, hne⟩

/-- Sources that are mixed have no order in common. -/
theorem commonOrder_of_mixed (h : Mixed sources) :
    commonOrder sources = .error (.argument .mixedOrder) := by
  rcases h with ⟨a, ha, b, hb, hra, hrb, hne⟩
  replace ha := List.mem_filter.mpr ⟨ha, hra⟩
  replace hb := List.mem_filter.mpr ⟨hb, hrb⟩
  rw [commonOrder]
  generalize sources.filter (·.isReadable) = kept at ha hb ⊢
  cases kept with
  | nil => exact absurd ha List.not_mem_nil
  | cons first rest =>
      -- If all had the order of the first one, then these two would have it.
      refine if_neg fun hall => hne ?_
      have hfirst : ∀ c ∈ first :: rest, c.order = first.order := by
        intro c hc
        rcases List.mem_cons.mp hc with rfl | hc
        · rfl
        · exact eq_of_beq (List.all_eq_true.mp hall c hc)
      rw [hfirst a ha, hfirst b hb]

/-- Sources that are not mixed have the order that one of them voices. -/
theorem commonOrder_of_voices (hvoices : Voices sources order) (h : ¬ Mixed sources) :
    commonOrder sources = .ok order := by
  rcases hvoices with ⟨b, hb, hrb, rfl⟩
  have hsame : ∀ c ∈ sources.filter (·.isReadable), c.order = b.order := by
    intro c hc
    rcases List.mem_filter.mp hc with ⟨hc, hrc⟩
    exact Decidable.byContradiction fun hne => h ⟨c, hc, b, hb, hrc, hrb, hne⟩
  -- Only sources with something to read are asked, so at least the one that voices is.
  replace hb := List.mem_filter.mpr ⟨hb, hrb⟩
  rw [commonOrder]
  generalize sources.filter (·.isReadable) = kept at hb hsame ⊢
  cases kept with
  | nil => exact absurd hb List.not_mem_nil
  | cons first rest =>
      have hfirst := hsame first List.mem_cons_self
      refine (if_pos (List.all_eq_true.mpr fun c hc => ?_)).trans (by rw [hfirst])
      rw [hsame c (List.mem_cons_of_mem first hc), hfirst]
      exact beq_self_eq_true _

/-- Where nothing can be read, the order is big-endian. -/
theorem commonOrder_of_silent (h : ∀ order, ¬ Voices sources order) :
    commonOrder sources = .ok .big := by
  have hnone : sources.filter (·.isReadable) = [] :=
    List.filter_eq_nil_iff.mpr fun b hb hrb => h b.order ⟨b, hb, hrb, rfl⟩
  rw [commonOrder, hnone]

theorem exists_commonOrder (h : ¬ Mixed sources) : ∃ order, commonOrder sources = .ok order := by
  by_cases hsilent : ∀ order, ¬ Voices sources order
  · exact ⟨_, commonOrder_of_silent hsilent⟩
  · rcases not_forall.mp hsilent with ⟨order, hvoices⟩
    exact ⟨order, commonOrder_of_voices (not_not.mp hvoices) h⟩

theorem not_mixed_of_commonOrder (h : commonOrder sources = .ok order) : ¬ Mixed sources :=
  fun hmixed => nomatch (commonOrder_of_mixed hmixed).symm.trans h

/-- Each source with something to read has the order in common. -/
theorem order_of_commonOrder (h : commonOrder sources = .ok order) (hb : b ∈ sources)
    (hrb : b.isReadable = true) : b.order = order := by
  have hsame := commonOrder_of_voices ⟨b, hb, hrb, rfl⟩ (not_mixed_of_commonOrder h)
  exact Except.ok.inj (hsame.symm.trans h)

/-! ### Views of several sources -/

theorem wrapAll_of_mixed (h : Mixed sources) :
    wrapAll sources = .error (.argument .mixedOrder) := by
  rw [wrapAll, commonOrder_of_mixed h]
  rfl

theorem wrapAll_of_order (h : commonOrder sources = .ok order) :
    wrapAll sources = .ok (ofRegions order (sources.flatMap pieces)) := by
  rw [wrapAll, h]
  rfl

/-- What is promised of a view of several sources. -/
structure Joined (sources : List Buffer) (m : Memory) (w : Buffer) : Prop where
  /-- All that can be read of the sources can be read, and nothing else is there. -/
  content : w.content m = sources.flatMap (·.content m)
  whole : w.reader = 0 ∧ w.writer = w.capacity ∧ w.maxCapacity = w.capacity
  order : ∀ b ∈ sources, b.isReadable = true → b.order = w.order
  /-- The bytes are those of the sources, at their addresses. -/
  shared : addresses w.regions =
    sources.flatMap fun b => ((addresses b.regions).drop b.reader).take b.readableBytes
  /-- It is flat if at most one piece is left. -/
  composite : w.isComposite = false ↔ (sources.flatMap pieces).length ≤ 1
  /-- Its components are the pieces, one by one. -/
  components : w.components.map (·.regions) = (sources.flatMap pieces).map ([·])
  flat : ∀ c ∈ w.components, c.isComposite = false ∧ 0 < c.capacity
  together : w.components.flatMap (·.content m) = w.content m

/-- What comes of sources that have an order in common. -/
theorem wrapAll_joined (h : commonOrder sources = .ok order) (m : Memory) :
    Joined sources m (ofRegions order (sources.flatMap pieces)) := by
  have hpos : ∀ r ∈ sources.flatMap pieces, 0 < r.length := fun r hr => flatMap_pieces_pos hr
  have hcontent := content_ofRegions m order (sources.flatMap pieces)
  -- No piece is empty, so none is dropped on the way and none is cut.
  have hcomponents : (ofRegions order (sources.flatMap pieces)).components =
      (sources.flatMap pieces).map fun r => ofRegions order [r] := by
    rw [ofRegions_of_pos order hpos, components, capacity, clip_whole hpos]
  have hone : ∀ r ∈ sources.flatMap pieces, (ofRegions order [r]).regions = [r] := by
    intro r hr
    rw [ofRegions_single order (hpos r hr)]
  refine ⟨hcontent.trans (loadAll_pieces sources m), ?_, ?_, ?_, ?_, ?_, ?_, ?_⟩
  · exact ⟨rfl, rfl, rfl⟩
  · intro b hb hrb
    exact order_of_commonOrder h hb hrb
  · rw [ofRegions_of_pos order hpos, addresses_pieces]
  · rw [ofRegions_of_pos order hpos, isComposite, decide_eq_false_iff_not, Nat.not_le,
      Nat.lt_succ_iff]
  · rw [hcomponents, List.map_map]
    exact List.map_congr_left hone
  · intro c hc
    rw [hcomponents] at hc
    rcases List.mem_map.mp hc with ⟨r, hr, rfl⟩
    rw [isComposite, capacity, hone r hr, span_cons, span_nil]
    exact ⟨rfl, hpos r hr⟩
  · rw [hcontent, hcomponents, Memory.loadAll_eq_flatMap, List.flatMap_map]
    refine List.flatMap_congr fun r hr => ?_
    rw [content_ofRegions, Memory.loadAll_cons, Memory.loadAll_nil, List.append_nil]

/-! ### Copies of several sources -/

/-- A copy of some bytes holds them, in a flat buffer. -/
theorem content_copied (m : Memory) (order : ByteOrder) (bytes : Bytes) :
    (copied m order bytes).1.content (copied m order bytes).2 = bytes ∧
      (copied m order bytes).1.order = order ∧ (copied m order bytes).1.isComposite = false := by
  cases bytes with
  | nil => exact ⟨rfl, rfl, rfl⟩
  | cons byte bytes =>
      have hmax : (byte :: bytes).toArray.size ≤
          max Capacity.defaultMax (byte :: bytes).length := Nat.le_max_right _ _
      have hbytes := (Sound.ofBytes m order (byte :: bytes).toArray (Nat.le_refl _) hmax).2
      exact ⟨hbytes.trans (List.take_of_length_le (Nat.le_refl _)), rfl, rfl⟩

theorem copyAll_of_mixed (h : Mixed sources) :
    copyAll m sources = .error (.argument .mixedOrder) := by
  rw [copyAll, commonOrder_of_mixed h]
  rfl

/-- Sources that are too long together are not copied. -/
theorem copyAll_of_overflow (h : commonOrder sources = .ok order)
    (hlong : Capacity.defaultMax < (sources.map (·.readableBytes)).sum) :
    copyAll m sources = .error (.argument .totalOverflow) := by
  have htotal : checkedTotal (sources.map (·.readableBytes)) =
      .error (.argument .totalOverflow) := if_neg (Nat.not_le_of_lt hlong)
  rw [copyAll, h, htotal]
  rfl

theorem copyAll_of_fits (h : commonOrder sources = .ok order)
    (hfits : (sources.map (·.readableBytes)).sum ≤ Capacity.defaultMax) :
    copyAll m sources = .ok (copied m order (sources.flatMap (·.content m))) := by
  have htotal : checkedTotal (sources.map (·.readableBytes)) =
      .ok (sources.map (·.readableBytes)).sum := if_pos hfits
  rw [copyAll, h, htotal]
  rfl

/-! ### Sources that come to the same -/

/-- Two lists of sources have the same pieces, and voice the same orders. -/
structure Tantamount (bs cs : List Buffer) : Prop where
  pieces : bs.flatMap pieces = cs.flatMap pieces
  voices : ∀ order, Voices bs order ↔ Voices cs order

theorem voices_append {order : ByteOrder} :
    Voices (bs ++ cs) order ↔ Voices bs order ∨ Voices cs order := by
  simp only [Voices, List.mem_append, or_and_right, exists_or]

namespace Tantamount

theorem append {bs' cs' : List Buffer} (h : Tantamount bs cs) (h' : Tantamount bs' cs') :
    Tantamount (bs ++ bs') (cs ++ cs') where
  pieces := by rw [List.flatMap_append, List.flatMap_append, h.pieces, h'.pieces]
  voices order := by rw [voices_append, voices_append, h.voices, h'.voices]

theorem mixed (h : Tantamount bs cs) : Mixed bs ↔ Mixed cs := by
  simp only [mixed_iff, h.voices]

theorem commonOrder (h : Tantamount bs cs) :
    Buffer.commonOrder bs = Buffer.commonOrder cs := by
  by_cases hmixed : Mixed bs
  · rw [commonOrder_of_mixed hmixed, commonOrder_of_mixed (h.mixed.mp hmixed)]
  · by_cases hsilent : ∀ order, ¬ Voices bs order
    · rw [commonOrder_of_silent hsilent,
        commonOrder_of_silent fun order hcs => hsilent order ((h.voices order).mpr hcs)]
    · rcases not_forall.mp hsilent with ⟨order, hvoices⟩
      rw [commonOrder_of_voices (not_not.mp hvoices) hmixed,
        commonOrder_of_voices ((h.voices order).mp (not_not.mp hvoices))
          fun hcs => hmixed (h.mixed.mpr hcs)]

theorem wrapAll (h : Tantamount bs cs) : Buffer.wrapAll bs = Buffer.wrapAll cs := by
  by_cases hmixed : Mixed bs
  · rw [wrapAll_of_mixed hmixed, wrapAll_of_mixed (h.mixed.mp hmixed)]
  · rcases exists_commonOrder hmixed with ⟨order, horder⟩
    rw [wrapAll_of_order horder, wrapAll_of_order (h.commonOrder.symm.trans horder), h.pieces]

end Tantamount

/-- Sources come to the same as the buffer that is made of them. -/
theorem wrapAll_tantamount (hvalid : ∀ b ∈ sources, b.Valid)
    (h : commonOrder sources = .ok order) :
    Tantamount [ofRegions order (sources.flatMap pieces)] sources := by
  have hpos : ∀ r ∈ sources.flatMap pieces, 0 < r.length := fun r hr => flatMap_pieces_pos hr
  have hpieces := pieces_ofRegions order hpos
  refine ⟨by rw [List.flatMap_singleton, hpieces], fun voice => ?_⟩
  constructor
  · rintro ⟨w, hw, hrw, rfl⟩
    rw [List.mem_singleton.mp hw] at hrw ⊢
    -- There is a piece, and the source that it is from can be read.
    have hsome : sources.flatMap pieces ≠ [] := by
      intro hnone
      rw [hnone] at hrw
      cases hrw
    rcases List.exists_mem_of_ne_nil _ hsome with ⟨r, hr⟩
    rcases List.mem_flatMap.mp hr with ⟨b, hb, hr⟩
    have hrb : b.isReadable = true := by
      refine eq_true_of_ne_false fun hunread => ?_
      rw [pieces_eq_nil hunread] at hr
      exact List.not_mem_nil hr
    exact ⟨b, hb, hrb, order_of_commonOrder h hb hrb⟩
  · rintro ⟨b, hb, hrb, rfl⟩
    refine ⟨_, List.mem_singleton_self _, ?_, (order_of_commonOrder h hb hrb).symm⟩
    have hlength := (hvalid b hb).span_pieces
    rw [isReadable, decide_eq_true_eq] at hrb ⊢
    rw [ofRegions_of_pos order hpos, readableBytes, Nat.sub_zero]
    change 0 < span (sources.flatMap pieces)
    -- The pieces of this source alone span a byte.
    obtain ⟨before, after, rfl⟩ := List.append_of_mem hb
    rw [List.flatMap_append, List.flatMap_cons, span_append, span_append]
    omega

end Buffer

/-! ### Groups within groups -/

/-- Buffers in groups, each of which is to be wrapped before it is part of the next. -/
inductive Nesting where
  | source (b : Buffer)
  | group (parts : List Nesting)

namespace Nesting

open Buffer

mutual

/-- The buffers, in order. -/
def sources : Nesting → List Buffer
  | .source b => [b]
  | .group parts => allSources parts

def allSources : List Nesting → List Buffer
  | [] => []
  | part :: parts => part.sources ++ allSources parts

end

mutual

/-- Wraps each group, the inner ones first. -/
def wrap : Nesting → Except Error Buffer
  | .source b => .ok b
  | .group parts => do wrapAll (← wrapEach parts)

def wrapEach : List Nesting → Except Error (List Buffer)
  | [] => .ok []
  | part :: parts => do
    let w ← part.wrap
    let ws ← wrapEach parts
    return w :: ws

end

/-- What comes of wrapping groups: the sources are mixed and it fails, or they come to the
    same as what is made of them. -/
def Comes (bs : List Buffer) (result : Except Error (List Buffer)) : Prop :=
  (Mixed bs ∧ result = .error (.argument .mixedOrder)) ∨
    ∃ ws, result = .ok ws ∧ Tantamount ws bs

theorem mixed_append_left {bs cs : List Buffer} (h : Mixed bs) : Mixed (bs ++ cs) := by
  rcases h with ⟨a, ha, b, hb, hab⟩
  exact ⟨a, List.mem_append_left cs ha, b, List.mem_append_left cs hb, hab⟩

theorem mixed_append_right {bs cs : List Buffer} (h : Mixed cs) : Mixed (bs ++ cs) := by
  rcases h with ⟨a, ha, b, hb, hab⟩
  exact ⟨a, List.mem_append_right bs ha, b, List.mem_append_right bs hb, hab⟩

/-- Wrapping the members of a group, and then all of them, is wrapping the sources. -/
theorem comes_wrapAll {parts : List Nesting} (h : Comes (allSources parts) (wrapEach parts)) :
    (group parts).wrap = wrapAll (allSources parts) := by
  rw [wrap]
  rcases h with ⟨hmixed, hfailed⟩ | ⟨ws, hwrapped, hsame⟩
  · rw [hfailed, wrapAll_of_mixed hmixed]
    rfl
  · rw [hwrapped]
    exact hsame.wrapAll

-- The induction is on the nesting. That wrapping it gives what wrapping its sources gives does
-- not carry over to the next group, which has the wrapped buffer for a source; that the two
-- come to the same does.
mutual

theorem wrap_comes : (n : Nesting) → (∀ b ∈ n.sources, b.Valid) →
    Comes n.sources (n.wrap.map ([·]))
  | .source b, _ => Or.inr ⟨[b], rfl, rfl, fun _ => Iff.rfl⟩
  | .group parts, hvalid => by
      rw [comes_wrapAll (wrapEach_comes parts hvalid)]
      by_cases hmixed : Mixed (allSources parts)
      · exact Or.inl ⟨hmixed, by rw [wrapAll_of_mixed hmixed]; rfl⟩
      · rcases exists_commonOrder hmixed with ⟨order, horder⟩
        refine Or.inr ⟨_, ?_, wrapAll_tantamount hvalid horder⟩
        rw [wrapAll_of_order horder]
        rfl

theorem wrapEach_comes : (parts : List Nesting) → (∀ b ∈ allSources parts, b.Valid) →
    Comes (allSources parts) (wrapEach parts)
  | [], _ => Or.inr ⟨[], rfl, rfl, fun _ => Iff.rfl⟩
  | part :: parts, hvalid => by
      rw [allSources, wrapEach]
      rw [allSources] at hvalid
      have hpart := wrap_comes part fun b hb => hvalid b (List.mem_append_left _ hb)
      have hparts := wrapEach_comes parts fun b hb => hvalid b (List.mem_append_right _ hb)
      cases hwrap : part.wrap with
      | error cause =>
          rw [hwrap] at hpart
          rcases hpart with ⟨hmixed, hcause⟩ | ⟨_, hnone, -⟩
          · -- Sources that are mixed are still mixed among others.
            cases hcause
            exact Or.inl ⟨mixed_append_left hmixed, rfl⟩
          · cases hnone
      | ok w =>
          rw [hwrap] at hpart
          rcases hpart with ⟨-, hnone⟩ | ⟨_, hone, hsame⟩
          · cases hnone
          · cases hone
            rcases hparts with ⟨hmixed, hfailed⟩ | ⟨ws, hwrapped, hothers⟩
            · exact Or.inl ⟨mixed_append_right hmixed, by rw [hfailed]; rfl⟩
            · exact Or.inr ⟨w :: ws, by rw [hwrapped]; rfl, hsame.append hothers⟩

end

/-- Wrapping in groups is wrapping all sources at once, and fails just when that does. -/
theorem wrap_group (parts : List Nesting) (hvalid : ∀ b ∈ (group parts).sources, b.Valid) :
    (group parts).wrap = wrapAll (group parts).sources :=
  comes_wrapAll (wrapEach_comes parts hvalid)

end Nesting

namespace Buffer

/-- What is promised of several sources that are made into one buffer. -/
structure Joins (sources : List Buffer) (m : Memory) : Prop where
  /-- Both ways to do it fail if two sources with something to read differ in byte order. -/
  mixed : Mixed sources → wrapAll sources = .error (.argument .mixedOrder) ∧
    copyAll m sources = .error (.argument .mixedOrder)
  /-- A view can be had of all others, -/
  wrapped : ¬ Mixed sources → ∃ w, wrapAll sources = .ok w ∧ Joined sources m w
  /-- but a copy only of those that are not too long. -/
  overflow : ¬ Mixed sources → Capacity.defaultMax < (sources.map (·.readableBytes)).sum →
    copyAll m sources = .error (.argument .totalOverflow)
  copied : ¬ Mixed sources → (sources.map (·.readableBytes)).sum ≤ Capacity.defaultMax →
    ∃ c m', copyAll m sources = .ok (c, m') ∧ c.content m' = sources.flatMap (·.content m) ∧
      (∀ b ∈ sources, b.isReadable = true → b.order = c.order) ∧ c.isComposite = false
  /-- However the sources are grouped, wrapping each group and then all of them fails just
      when wrapping all at once does, and otherwise the same buffer comes of it. -/
  grouped : ∀ parts, (Nesting.group parts).sources = sources →
    (Nesting.group parts).wrap = wrapAll sources

/-- What comes of any sources whose cursors are in order. -/
theorem joins {sources : List Buffer} (hvalid : ∀ b ∈ sources, b.Valid) (m : Memory) :
    Joins sources m where
  mixed h := ⟨wrapAll_of_mixed h, copyAll_of_mixed h⟩
  wrapped h := by
    rcases exists_commonOrder h with ⟨order, horder⟩
    exact ⟨_, wrapAll_of_order horder, wrapAll_joined horder m⟩
  overflow h hlong := by
    rcases exists_commonOrder h with ⟨order, horder⟩
    exact copyAll_of_overflow horder hlong
  copied h hfits := by
    rcases exists_commonOrder h with ⟨order, horder⟩
    -- A copy is flat, so its order is the one thing that it takes from the sources besides bytes.
    rcases content_copied m order (sources.flatMap (·.content m)) with ⟨hcontent, hsame, hflat⟩
    have hcopy := copyAll_of_fits (m := m) horder hfits
    refine ⟨_, _, hcopy, hcontent, fun b hb hrb => ?_, hflat⟩
    exact (order_of_commonOrder horder hb hrb).trans hsame.symm
  grouped parts hsources := by
    subst hsources
    exact Nesting.wrap_group parts hvalid

end Buffer

end Conduit
