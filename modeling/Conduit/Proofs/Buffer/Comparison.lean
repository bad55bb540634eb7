import Conduit.Buffer.Order
import Conduit.Proofs.Buffer.Bounds

/-!
# Comparing Bytes and Words

Buffers are compared by the bytes that can be read, but not one by one. Four bytes are
compared at a time, as a number, and that has to come to the same: the first byte that
differs decides, and it decides for its word as well, since it counts for more than all
bytes after it. Where one string ends first there is no word left that both have, and
bytes are compared by themselves.

Two buffers that look through the same window from the same reader on are not compared
at all. That they are equal then has to be known from their regions. They may differ in
how far their windows reach, since one of them can be a slice of the other, but the bytes
that can be read lie within both.

## Main definitions

* `Buffer.Compared`: What comparing two buffers tells.

## Theorems

* `compare_digit`: A digit counts for more than all that come after it.
* `toNat_bigWord`: The number that four bytes make.
* `compare_bigWord`: A word is compared like its bytes.
* `compareRest_eq`, `then_of_ne`: What is left over, and a comparison that is decided.
* `compareWords_eq`: Byte strings are compared as lists of bytes.
* `compare_eq_lt`: When one of them is the smaller.
* `hashCode_ne_zero`: No hash is zero.
* `Valid.addresses_content`: The addresses of the content of a flat buffer.
* `Valid.content_of_sharesWindow`: One window shows the same bytes.
* `Backed.equals_iff`: Buffers are equal if their bytes are.
* `Backed.compared`: What comparing tells of buffers in order.
-/

namespace Conduit

open Region

namespace Bytes

/-! ### Words -/

/-- A digit counts for more than all that come after it. -/
theorem compare_digit {a b k x y : Nat} (hx : x < k) (hy : y < k) :
    compare (a * k + x) (b * k + y) = (compare a b).then (compare x y) := by
  -- If the digits differ, the one that is larger is so by at least a whole `k`.
  rcases Nat.lt_trichotomy a b with hlt | rfl | hgt
  · have hless : (a + 1) * k ≤ b * k := Nat.mul_le_mul_right k hlt
    rw [Nat.add_mul, Nat.one_mul] at hless
    rw [Nat.compare_eq_lt.mpr hlt, Nat.compare_eq_lt.mpr (by omega)]
    rfl
  · rw [Nat.compare_eq_eq.mpr rfl, Ordering.eq_then]
    rcases Nat.lt_trichotomy x y with h | rfl | h
    · rw [Nat.compare_eq_lt.mpr h, Nat.compare_eq_lt.mpr (by omega)]
    · rw [Nat.compare_eq_eq.mpr rfl, Nat.compare_eq_eq.mpr rfl]
    · rw [Nat.compare_eq_gt.mpr h, Nat.compare_eq_gt.mpr (by omega)]
  · have hmore : (b + 1) * k ≤ a * k := Nat.mul_le_mul_right k hgt
    rw [Nat.add_mul, Nat.one_mul] at hmore
    rw [Nat.compare_eq_gt.mpr hgt, Nat.compare_eq_gt.mpr (by omega)]
    rfl

/-- The number that four bytes make. -/
theorem toNat_bigWord (a b c d : UInt8) :
    (bigWord a b c d).toNat =
      a.toNat * 16777216 + (b.toNat * 65536 + (c.toNat * 256 + d.toNat)) := by
  have ha := a.toNat_lt
  have hb := b.toNat_lt
  have hc := c.toNat_lt
  have hd := d.toNat_lt
  -- Each byte is shifted to a place that the later ones leave free.
  have hcd : c.toNat <<< 8 ||| d.toNat = c.toNat * 256 + d.toNat := by
    rw [← Nat.shiftLeft_add_eq_or_of_lt (by omega), Nat.shiftLeft_eq]
  have hbcd : b.toNat <<< 16 ||| (c.toNat * 256 + d.toNat) =
      b.toNat * 65536 + (c.toNat * 256 + d.toNat) := by
    rw [← Nat.shiftLeft_add_eq_or_of_lt (by omega), Nat.shiftLeft_eq]
  have hshift : ∀ (x : UInt8) (k : UInt32), k.toNat < 25 →
      (x.toUInt32 <<< k).toNat = x.toNat <<< k.toNat := by
    intro x k hk
    have hx := x.toNat_lt
    have hpow : 2 ^ k.toNat ≤ 2 ^ 24 := Nat.pow_le_pow_right (by omega) (by omega)
    rw [UInt32.toNat_shiftLeft, UInt8.toNat_toUInt32, Nat.mod_eq_of_lt (by omega : k.toNat < 32),
      Nat.mod_eq_of_lt]
    rw [Nat.shiftLeft_eq]
    calc x.toNat * 2 ^ k.toNat ≤ x.toNat * 2 ^ 24 := Nat.mul_le_mul_left _ hpow
      _ < 2 ^ 32 := by omega
  rw [bigWord, UInt32.toNat_or, UInt32.toNat_or, UInt32.toNat_or, hshift a 24 (by decide),
    hshift b 16 (by decide), hshift c 8 (by decide), UInt8.toNat_toUInt32, Nat.or_assoc,
    Nat.or_assoc]
  change a.toNat <<< 24 ||| (b.toNat <<< 16 ||| (c.toNat <<< 8 ||| d.toNat)) = _
  rw [hcd, hbcd, ← Nat.shiftLeft_add_eq_or_of_lt (by omega), Nat.shiftLeft_eq]

/-- A word is compared like its bytes, from the first to the last. -/
theorem compare_bigWord (a₀ a₁ a₂ a₃ b₀ b₁ b₂ b₃ : UInt8) :
    compare (bigWord a₀ a₁ a₂ a₃) (bigWord b₀ b₁ b₂ b₃) =
      (compare a₀ b₀).then
        ((compare a₁ b₁).then ((compare a₂ b₂).then (compare a₃ b₃))) := by
  have ha₁ := a₁.toNat_lt
  have ha₂ := a₂.toNat_lt
  have ha₃ := a₃.toNat_lt
  have hb₁ := b₁.toNat_lt
  have hb₂ := b₂.toNat_lt
  have hb₃ := b₃.toNat_lt
  -- Three times a digit is split off from what comes after it.
  rw [UInt32.compare_eq_toNat_compare_toNat, toNat_bigWord, toNat_bigWord,
    compare_digit (by omega) (by omega), compare_digit (by omega) (by omega),
    compare_digit (by omega) (by omega)]
  simp only [UInt8.compare_eq_toNat_compare_toNat]

/-! ### Byte strings -/

theorem compareRest_eq (as bs : Bytes) : compareWords.compareRest as bs = compare as bs := by
  induction as generalizing bs with
  | nil => cases bs <;> rfl
  | cons a as ih =>
      cases bs with
      | nil => rfl
      | cons b bs =>
          rw [compareWords.compareRest, List.compare_cons_cons, ih]
          cases compare a b <;> rfl

theorem then_of_ne {x : Ordering} (hx : x ≠ .eq) (y : Ordering) : x.then y = x := by
  cases x with
  | eq => exact absurd rfl hx
  | lt => rfl
  | gt => rfl

/-- Byte strings are compared as lists of bytes are. -/
theorem compareWords_eq (as bs : Bytes) : compareWords as bs = compare as bs := by
  fun_induction compareWords as bs with
  | case1 a₀ a₁ a₂ a₃ as b₀ b₁ b₂ b₃ bs heq ih =>
      -- The words are the same, so none of their bytes decides.
      rw [compare_bigWord] at heq
      simp only [Ordering.then_eq_eq] at heq
      simp [List.compare_cons_cons, heq, ih]
  | case2 a₀ a₁ a₂ a₃ as b₀ b₁ b₂ b₃ bs hne =>
      -- They are not, so no byte after them does.
      have hword : compare (a₀ :: a₁ :: a₂ :: a₃ :: as) (b₀ :: b₁ :: b₂ :: b₃ :: bs) =
          (compare (bigWord a₀ a₁ a₂ a₃) (bigWord b₀ b₁ b₂ b₃)).then (compare as bs) := by
        simp only [List.compare_cons_cons, compare_bigWord, Ordering.then_assoc]
      rw [hword, then_of_ne hne]
  | case3 as bs hshort => exact compareRest_eq as bs

/-- The first byte that differs decides, and a string that the other one goes on from is the
    smaller. -/
theorem compare_eq_lt {as bs : Bytes} : compare as bs = .lt ↔ as < bs := by
  induction as generalizing bs with
  | nil =>
      cases bs with
      | nil => exact iff_of_false (by decide) (List.not_lt_nil _)
      | cons b bs => exact iff_of_true rfl (List.nil_lt_cons b bs)
  | cons a as ih =>
      cases bs with
      | nil => exact iff_of_false (by rw [List.compare_cons_nil]; decide) (List.not_lt_nil _)
      | cons b bs =>
          rw [List.compare_cons_cons, Ordering.then_eq_lt, List.cons_lt_cons_iff, ih,
            Std.compare_eq_lt, Std.compare_eq_iff_eq]

/-- No hash is zero. -/
theorem hashCode_ne_zero (bytes : Bytes) : hashCode bytes ≠ 0 := by
  rw [hashCode]
  by_cases hzero : hashFrom 1 bytes = 0
  · rw [if_pos hzero]
    decide
  · rw [if_neg hzero]
    intro hsigned
    -- The sign is a matter of reading: no word but zero is read as zero.
    have hword : (hashFrom 1 bytes).toInt32 = 0 := Int32.toInt_inj.mp hsigned
    exact hzero (congrArg Int32.toUInt32 hword)

end Bytes

namespace Buffer

variable {a b : Buffer} {m : Memory}

/-- What comparing two buffers tells of the bytes that can be read. -/
structure Compared (a b : Buffer) (m : Memory) : Prop where
  /-- The first byte that differs decides, and a string that the other one goes on from is
      the smaller. -/
  less : a.compareTo b m = .lt ↔ a.content m < b.content m
  greater : a.compareTo b m = .gt ↔ b.content m < a.content m
  same : a.compareTo b m = .eq ↔ a.content m = b.content m
  equal : a.equals b m = true ↔ a.content m = b.content m
  /-- Buffers that are equal have one hash. -/
  hash : a.equals b m = true → a.hashCode m = b.hashCode m

/-- A buffer over one region shows a slice of it. -/
theorem Valid.addresses_content (h : b.Valid) {r : Region} (hr : b.regions = [r]) :
    addresses (clip b.regions b.reader b.readableBytes) =
      (r.slice b.reader b.readableBytes).places := by
  have hreader := h.reader_le_writer
  have hwriter := h.writer_le_capacity
  rw [capacity, hr, span_cons, span_nil] at hwriter
  rw [addresses_clip, hr, addresses_cons, addresses_nil, List.append_nil, places_slice]
  rw [readableBytes]
  omega

/-- Through the same window, from the same reader on, the same bytes are seen. -/
theorem Valid.content_of_sharesWindow (ha : a.Valid) (hb : b.Valid)
    (hwindow : a.sharesWindow b = true) (hreader : a.reader = b.reader)
    (hreadable : a.readableBytes = b.readableBytes) : a.content m = b.content m := by
  rw [content, content, peek, peek, Memory.load, Memory.load, Memory.loadAll_eq_filterMap,
    Memory.loadAll_eq_filterMap]
  unfold sharesWindow at hwindow
  split at hwindow
  · rename_i r s hr hs
    simp only [Bool.and_eq_true, beq_iff_eq] at hwindow
    -- One window may be longer than the other, but what can be read is within both.
    have hslice : r.slice b.reader b.readableBytes = s.slice b.reader b.readableBytes := by
      rw [Region.slice, Region.slice, hwindow.1, hwindow.2]
    rw [ha.addresses_content hr, hb.addresses_content hs, hreader, hreadable, hslice]
  · have hregions : a.regions = b.regions := eq_of_beq hwindow
    rw [hregions, hreader, hreadable]

namespace Backed

/-- Two buffers are equal if their bytes are, whichever way that is found out. -/
theorem equals_iff (ha : a.Backed m) (hb : b.Backed m) :
    a.equals b m = true ↔ a.content m = b.content m := by
  rw [equals]
  by_cases hreadable : a.readableBytes = b.readableBytes
  · rw [if_neg (not_not.mpr hreadable)]
    by_cases hwindow : a.reader = b.reader ∧ a.sharesWindow b = true
    · rw [if_pos hwindow]
      have hcontent := ha.valid.content_of_sharesWindow hb.valid hwindow.2 hwindow.1 hreadable
        (m := m)
      exact iff_of_true rfl hcontent
    · rw [if_neg hwindow, beq_iff_eq, compareTo, Bytes.compareWords_eq, Std.compare_eq_iff_eq]
  · rw [if_pos hreadable]
    -- Contents of different lengths are not the same.
    refine iff_of_false Bool.false_ne_true fun hcontent => hreadable ?_
    rw [← ha.length_content, ← hb.length_content, hcontent]

/-- What comparing tells of buffers in order, whatever they are laid over. -/
theorem compared (ha : a.Backed m) (hb : b.Backed m) : a.Compared b m where
  less := by rw [compareTo, Bytes.compareWords_eq, Bytes.compare_eq_lt]
  greater := by
    rw [compareTo, Bytes.compareWords_eq, Std.OrientedCmp.gt_iff_lt, Bytes.compare_eq_lt]
  same := by rw [compareTo, Bytes.compareWords_eq, Std.compare_eq_iff_eq]
  equal := ha.equals_iff hb
  hash := fun h => by rw [hashCode, hashCode, (ha.equals_iff hb).mp h]

end Backed

end Buffer

end Conduit
