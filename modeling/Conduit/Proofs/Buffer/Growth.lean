import Conduit.Proofs.Buffer.Stroke
import Mathlib.Algebra.Group.Nat.Defs
import Mathlib.Order.Bounds.Basic

/-!
# How Large a Buffer Becomes

The capacity to grow to is the least of a fixed sequence that holds what was asked for:
the floor doubled again and again up to the threshold, and from there on the multiples of
the threshold. Both halves contain the threshold, so it does not matter which of them a
request right below it is answered from. The ceiling of the buffer cuts the answer off.

Sizes are words, and the sequence has members that are not. A request above the last
multiple that is a word is answered with the ceiling, which is a word and at least as
large as any request that a buffer makes. So nothing is lost on the way, and this has to
be said of the calculation on words: `Chosen` repeats it on words, where each premise says
that the step gives the number it stands for.

A buffer that has no room left asks for more than its capacity, and then what it grows to
is more than its capacity as well. If it were not, it would be left as it is without a
word, and the bytes that are written next would lie outside.

## Main definitions

* `Capacity.Choice`: The capacities among which growth chooses.
* `Capacity.Doubles`, `Capacity.Chosen`: The calculation, step by step on words.
* `Capacity.Lawful`: What can be said of the capacity to grow to.
* `Buffer.Provided`: What providing room makes of a buffer.
* `Buffer.Rooms`: What comes of asking a buffer for room.

## Theorems

* `Capacity.floor_doubled`: The threshold is a doubled floor.
* `Capacity.doubled_eq`, `Capacity.doubled_le`: Doubling gives a power of two times the
  start, and stops at the first that is enough.
* `Capacity.stepped_le`: Stepping stops at the first multiple that is enough.
* `Capacity.isLeast_doubled`, `Capacity.isLeast_stepped`, `Capacity.grown_least`: The
  least choice, below the threshold, from it on, and cut off at the ceiling.
* `Capacity.grown_monotone`: Who asks for more gets no less.
* `Capacity.toNat_thresholdWord`, `Capacity.toNat_timesToReach`, `Capacity.toNat_cutOff`:
  The steps of the calculation as numbers.
* `Capacity.exists_doubles`, `Capacity.exists_chosen`: On words it comes to an end, with
  nothing lost.
* `Capacity.Doubles.unique`, `Capacity.Chosen.unique`: And in one way only.
* `Capacity.lawful`: What can be said of the capacity to grow to.
* `Rehoused.peek`: A buffer that is rehoused shows what it showed.
* `Backed.provided_same`, `Backed.provided_larger`: Room that is there, and growing.
* `Backed.rooms`: Asking for room, in both ways.
-/

namespace Conduit

namespace Capacity

/-- The capacities among which growth chooses: the floor doubled until the threshold is
    reached, and the multiples of the threshold. -/
inductive Choice : Nat → Prop
  | doubled (k : Nat) (hk : floor * 2 ^ k ≤ threshold) : Choice (floor * 2 ^ k)
  | stepped (k : Nat) : Choice ((k + 1) * threshold)

/-- The threshold as a word. -/
def thresholdWord : UInt64 := 4194304

/-- How many times `size` is needed to reach `target`, on words. -/
def timesToReach (target size : UInt64) : UInt64 :=
  if target % size = 0 then target / size else target / size + 1

/-- A capacity that is a word, cut off at the ceiling. -/
def cutOff (c max : UInt64) : UInt64 := if c ≤ max then c else max

/-- A word is doubled until it reaches the target. No bit of it is lost in the shift. -/
inductive Doubles (target : UInt64) : UInt64 → UInt64 → Prop
  | reached {c : UInt64} (h : target ≤ c) : Doubles target c c
  | doubled {c r : UInt64} (h : c < target) (hexact : (c <<< 1).toNat = 2 * c.toNat)
      (rest : Doubles target (c <<< 1) r) : Doubles target c r

/-- The calculation of the capacity to grow to, on words. A product that is used is a word. -/
inductive Chosen (target max : UInt64) : UInt64 → Prop
  | small {c : UInt64} (h : target < thresholdWord) (hloop : Doubles target 64 c) :
      Chosen target max (cutOff c max)
  | large (h : thresholdWord ≤ target)
      (hexact : (timesToReach target thresholdWord * thresholdWord).toNat =
        (timesToReach target thresholdWord).toNat * thresholdWord.toNat) :
      Chosen target max (cutOff (timesToReach target thresholdWord * thresholdWord) max)
  | beyond (h : thresholdWord ≤ target)
      (hbeyond : wordLimit ≤ (timesToReach target thresholdWord).toNat * thresholdWord.toNat) :
      Chosen target max max

/-- What can be said of the capacity to grow to. -/
structure Lawful : Prop where
  /-- On words the calculation ends, it ends in one way only, and it loses nothing. -/
  words : ∀ target max : UInt64, ∃ c, Chosen target max c ∧ (∀ c', Chosen target max c' → c' = c) ∧
    c.toNat = grown target.toNat max.toNat
  /-- It is the least choice that holds what is asked for, cut off at the ceiling. Where that
      choice is not a word, it is the ceiling. -/
  least : ∀ target max, ∃ c, IsLeast {c | Choice c ∧ target ≤ c} c ∧
    grown target max = if c < wordLimit then min c max else max
  monotone : ∀ {target target'} max, target ≤ target' → grown target max ≤ grown target' max
  reaches : ∀ {target max}, target ≤ max → target ≤ grown target max
  ceiling : ∀ target max, grown target max ≤ max

/-! ### The least choice -/

/-- The floor is doubled sixteen times to reach the threshold. -/
theorem floor_doubled : floor * 2 ^ 16 = threshold := by decide

theorem doubled_eq (target start : Nat) (hpos : 0 < start) :
    ∃ k, doubled target start hpos = start * 2 ^ k := by
  fun_induction doubled target start hpos with
  | case1 start hpos hlt ih =>
      rcases ih with ⟨k, hk⟩
      refine ⟨k + 1, hk.trans ?_⟩
      rw [Nat.pow_succ', Nat.mul_comm 2 start, Nat.mul_assoc]
  | case2 start hpos hge => exact ⟨0, (Nat.mul_one start).symm⟩

/-- Doubling stops at the first power that reaches the target. -/
theorem doubled_le {target start i : Nat} (hpos : 0 < start) (h : target ≤ start * 2 ^ i) :
    doubled target start hpos ≤ start * 2 ^ i := by
  fun_induction doubled target start hpos generalizing i with
  | case1 start hpos hlt ih =>
      -- One doubling is done here, and the others from twice the start.
      cases i with
      | zero => omega
      | succ i =>
          have hshift : start * 2 ^ (i + 1) = 2 * start * 2 ^ i := by
            rw [Nat.pow_succ', Nat.mul_comm 2 start, Nat.mul_assoc]
          rw [hshift] at h ⊢
          exact ih h
  | case2 start hpos hge => exact Nat.le_mul_of_pos_right start (Nat.two_pow_pos i)

theorem stepped_le {target n : Nat} (h : target ≤ n * threshold) :
    stepped target ≤ n * threshold := by
  refine Nat.mul_le_mul_right threshold (Nat.le_of_lt_succ (Nat.div_lt_of_lt_mul ?_))
  have hpos : 0 < threshold := by decide
  rw [Nat.mul_comm threshold, Nat.succ_mul]
  omega

/-- Below the threshold the least choice comes of doubling. -/
theorem isLeast_doubled {target : Nat} (h : target < threshold) :
    IsLeast {c | Choice c ∧ target ≤ c} (doubled target floor (by decide)) := by
  rcases doubled_eq target floor (by decide) with ⟨k, hk⟩
  -- The threshold is a doubled floor too, so doubling does not go past it.
  have hceiling : doubled target floor (by decide) ≤ threshold :=
    floor_doubled ▸ doubled_le (by decide) (floor_doubled ▸ Nat.le_of_lt h)
  refine ⟨⟨hk ▸ Choice.doubled k (hk ▸ hceiling), le_doubled _ _ _⟩, ?_⟩
  rintro c ⟨hc, htarget⟩
  cases hc with
  | doubled k _ => exact doubled_le (by decide) htarget
  | stepped k => exact Nat.le_trans hceiling (Nat.le_mul_of_pos_left threshold (Nat.succ_pos k))

/-- From the threshold on it is a multiple of the threshold. -/
theorem isLeast_stepped {target : Nat} (h : threshold ≤ target) :
    IsLeast {c | Choice c ∧ target ≤ c} (stepped target) := by
  have hcount : 0 < (target + threshold - 1) / threshold :=
    Nat.div_pos (by unfold threshold at *; omega) (by decide)
  refine ⟨⟨?_, le_stepped target⟩, ?_⟩
  · have hchoice := Choice.stepped ((target + threshold - 1) / threshold - 1)
    rwa [Nat.sub_add_cancel hcount] at hchoice
  · rintro c ⟨hc, htarget⟩
    cases hc with
    | doubled k hk =>
        -- Only the threshold itself is both a doubled floor and as large as the target.
        have hstop : stepped target ≤ 1 * threshold := stepped_le (by omega)
        omega
    | stepped k => exact stepped_le htarget

theorem grown_least (target max : Nat) :
    ∃ c, IsLeast {c | Choice c ∧ target ≤ c} c ∧
      grown target max = if c < wordLimit then min c max else max := by
  unfold grown
  by_cases hlarge : threshold ≤ target
  · exact ⟨_, isLeast_stepped hlarge, if_pos hlarge⟩
  · have hleast := isLeast_doubled (Nat.lt_of_not_le hlarge)
    -- It is no more than the threshold, which is a choice.
    have hword : doubled target floor (by decide) < wordLimit := by
      refine Nat.lt_of_le_of_lt (hleast.2 ⟨Choice.stepped 0, ?_⟩) (by decide)
      omega
    rw [if_neg hlarge]
    exact ⟨_, hleast, (if_pos hword).symm⟩

/-- Who asks for more gets no less. -/
theorem grown_monotone {target target' : Nat} (max : Nat) (h : target ≤ target') :
    grown target max ≤ grown target' max := by
  rcases grown_least target max with ⟨c, hc, hgrown⟩
  rcases grown_least target' max with ⟨c', hc', hgrown'⟩
  -- What holds the larger request holds the smaller one too.
  have hle : c ≤ c' := hc.2 ⟨hc'.1.1, Nat.le_trans h hc'.1.2⟩
  rw [hgrown, hgrown']
  by_cases hword : c' < wordLimit
  · rw [if_pos (Nat.lt_of_le_of_lt hle hword), if_pos hword]
    omega
  · rw [if_neg hword, ← hgrown]
    exact grown_le target max

/-! ### The calculation on words -/

theorem toNat_thresholdWord : thresholdWord.toNat = threshold := rfl

/-- A word is doubled as its number is, as long as the target is no larger than the threshold. -/
theorem exists_doubles {target c : UInt64} (h : target ≤ thresholdWord) (hpos : 0 < c.toNat) :
    ∃ r, Doubles target c r ∧ r.toNat = doubled target.toNat c.toNat hpos := by
  obtain ⟨n, hn⟩ : ∃ n, n = c.toNat := ⟨_, rfl⟩
  have hn' : 0 < n := hn ▸ hpos
  suffices hall : ∃ r, Doubles target c r ∧ r.toNat = doubled target.toNat n hn' by
    simpa only [hn] using hall
  clear hpos
  -- The word goes along with the number that is doubled.
  fun_induction doubled target.toNat n hn' generalizing c with
  | case1 n hpos hlt ih =>
      have hexact : (c <<< 1).toNat = 2 * n := by
        have htarget := UInt64.le_iff_toNat_le.mp h
        rw [toNat_thresholdWord, threshold] at htarget
        rw [UInt64.toNat_shiftLeft]
        change c.toNat <<< 1 % 2 ^ 64 = 2 * n
        rw [Nat.shiftLeft_eq, ← hn]
        omega
      rcases ih hexact.symm with ⟨r, hloop, hr⟩
      exact ⟨r, Doubles.doubled (UInt64.lt_iff_toNat_lt.mpr (hn ▸ hlt)) (hn ▸ hexact) hloop, hr⟩
  | case2 n hpos hge =>
      exact ⟨c, Doubles.reached (UInt64.le_iff_toNat_le.mpr (hn ▸ Nat.le_of_not_lt hge)), hn.symm⟩

theorem Doubles.unique {target c r r' : UInt64} (h : Doubles target c r)
    (h' : Doubles target c r') : r = r' := by
  induction h with
  | reached hge =>
      cases h' with
      | reached _ => rfl
      | doubled hlt _ _ => exact absurd hge (UInt64.not_le.mpr hlt)
  | doubled hlt _ _ ih =>
      cases h' with
      | reached hge => exact absurd hge (UInt64.not_le.mpr hlt)
      | doubled _ _ rest => exact ih rest

theorem toNat_timesToReach (target : UInt64) :
    (timesToReach target thresholdWord).toNat * thresholdWord.toNat = stepped target.toNat := by
  have hlt := target.toNat_lt
  have hmod : (target % thresholdWord).toNat = target.toNat % 4194304 := UInt64.toNat_mod _ _
  have hdiv : (target / thresholdWord).toNat = target.toNat / 4194304 := UInt64.toNat_div _ _
  unfold timesToReach stepped
  rw [toNat_thresholdWord]
  -- Rounding up is done in two ways: by adding one to a quotient that is not exact, and by
  -- adding almost a divisor before dividing.
  refine congrArg (· * threshold) ?_
  unfold threshold
  by_cases hzero : target % thresholdWord = 0
  · rw [if_pos hzero, hdiv]
    have hnone : target.toNat % 4194304 = 0 := hmod ▸ congrArg UInt64.toNat hzero
    omega
  · have hsome : target.toNat % 4194304 ≠ 0 := by
      intro hnone
      exact hzero (UInt64.toNat_inj.mp (hmod.trans hnone))
    rw [if_neg hzero, UInt64.toNat_add, hdiv, UInt64.toNat_one]
    omega

theorem toNat_cutOff (c max : UInt64) : (cutOff c max).toNat = min c.toNat max.toNat := by
  unfold cutOff
  by_cases hle : c ≤ max
  · rw [if_pos hle, Nat.min_eq_left (UInt64.le_iff_toNat_le.mp hle)]
  · have hge := UInt64.le_of_lt (UInt64.not_le.mp hle)
    rw [if_neg hle, Nat.min_eq_right (UInt64.le_iff_toNat_le.mp hge)]

/-- The calculation on words comes to an end, and nothing is lost in it. -/
theorem exists_chosen (target max : UInt64) :
    ∃ c, Chosen target max c ∧ c.toNat = grown target.toNat max.toNat := by
  unfold grown
  by_cases hlarge : thresholdWord ≤ target
  · have hlarge' : threshold ≤ target.toNat := UInt64.le_iff_toNat_le.mp hlarge
    rw [if_pos hlarge', ← toNat_timesToReach]
    -- The product is a word, and then it is exact, or it is not and is not used.
    by_cases hword : (timesToReach target thresholdWord).toNat * thresholdWord.toNat < wordLimit
    · have hexact := (UInt64.toNat_mul (timesToReach target thresholdWord) thresholdWord).trans
        (Nat.mod_eq_of_lt hword)
      refine ⟨_, Chosen.large hlarge hexact, ?_⟩
      rw [if_pos hword, toNat_cutOff, hexact]
    · exact ⟨max, Chosen.beyond hlarge (Nat.le_of_not_lt hword), (if_neg hword).symm⟩
  · have hsmall := UInt64.not_le.mp hlarge
    have hsmall' : ¬ threshold ≤ target.toNat := Nat.not_le.mpr (UInt64.lt_iff_toNat_lt.mp hsmall)
    rcases exists_doubles (UInt64.le_of_lt hsmall) (c := 64) (by decide) with ⟨c, hloop, hc⟩
    refine ⟨_, Chosen.small hsmall hloop, ?_⟩
    rw [if_neg hsmall', toNat_cutOff, hc]
    rfl

theorem Chosen.unique {target max c c' : UInt64} (h : Chosen target max c)
    (h' : Chosen target max c') : c = c' := by
  cases h with
  | small hsmall hloop =>
      cases h' with
      | small _ hloop' => rw [hloop.unique hloop']
      | large hlarge _ => exact absurd hlarge (UInt64.not_le.mpr hsmall)
      | beyond hlarge _ => exact absurd hlarge (UInt64.not_le.mpr hsmall)
  | large hlarge hexact =>
      cases h' with
      | small hsmall _ => exact absurd hlarge (UInt64.not_le.mpr hsmall)
      | large _ _ => rfl
      -- What is chosen exactly is a word, and what is beyond all words is none.
      | beyond _ hbeyond => exact absurd (UInt64.toNat_lt _) (Nat.not_lt_of_le (hexact ▸ hbeyond))
  | beyond hlarge hbeyond =>
      cases h' with
      | small hsmall _ => exact absurd hlarge (UInt64.not_le.mpr hsmall)
      | large _ hexact => exact absurd (UInt64.toNat_lt _) (Nat.not_lt_of_le (hexact ▸ hbeyond))
      | beyond _ _ => rfl

theorem lawful : Lawful where
  words := by
    intro target max
    rcases exists_chosen target max with ⟨c, hchosen, hc⟩
    exact ⟨c, hchosen, fun c' h' => h'.unique hchosen, hc⟩
  least := grown_least
  monotone := grown_monotone
  reaches := le_grown
  ceiling := grown_le

end Capacity

namespace Buffer

/-- What providing room for `wanted` more bytes makes of a buffer. -/
structure Provided (b : Buffer) (m : Memory) (wanted : Nat) (b' : Buffer) (m' : Memory) :
    Prop where
  room : wanted ≤ b'.writableBytes
  /-- Where there was room, nothing changes. -/
  same : wanted ≤ b.writableBytes → b' = b ∧ m' = m
  /-- Where there was none, the buffer is larger than before, and as large as it should be. -/
  larger : b.writableBytes < wanted →
    b.capacity < b'.capacity ∧ b'.capacity = b.grownCapacity (b.writer + wanted)
  ceiling : b'.capacity ≤ b.maxCapacity
  /-- Cursors and marks, the byte order and the ceiling are as they were. -/
  cursors : b' = { b with regions := b'.regions }
  bytes : ∀ index length, index + length ≤ b.capacity →
    b'.peek m' index length = b.peek m index length
  /-- No byte that was there is written, so no other buffer notices. -/
  elsewhere : m.Becomes [] m'

/-- What comes of asking a buffer for room, in both ways. -/
structure Rooms (b : Buffer) (m : Memory) : Prop where
  /-- What fits under the ceiling is provided. -/
  granted : ∀ wanted, wanted ≤ b.maxWritableBytes → ∃ b' m', b.Provided m wanted b' m' ∧
    b.ensureWritableBytes m wanted = .ok (b', m') ∧
    ∀ force, b.ensureWritable m wanted force =
      (if wanted ≤ b.writableBytes then .sufficient else .grew, b', m')
  /-- What does not fit under it is refused, even if a buffer is forced to take all it may. -/
  refused : ∀ wanted, b.maxWritableBytes < wanted →
    b.ensureWritableBytes m wanted = .error (.range (.growth b.writer wanted b.maxCapacity)) ∧
    ∀ force, ∃ v b' m', b.ensureWritable m wanted force = (v, b', m') ∧
      (v = .exhausted ∧ b' = b ∧ m' = m ∧ (force = true → b.capacity = b.maxCapacity) ∨
        v = .grewToMax ∧ force = true ∧ b.capacity < b'.capacity ∧
          b'.capacity = b.maxCapacity)

variable {b : Buffer} {m m' : Memory} {rs : List Region}

/-- A buffer that is rehoused has the same bytes there. -/
theorem Rehoused.peek (h : b.Rehoused m rs m') (hb : b.Backed m)
    (hb' : Backed { b with regions := rs } m') (hmore : b.capacity ≤ Region.span rs)
    {index length : Nat} (hin : index + length ≤ b.capacity) :
    Buffer.peek { b with regions := rs } m' index length = b.peek m index length := by
  refine List.ext_getElem? fun k => ?_
  by_cases hk : k < length
  · rw [hb'.getElem?_peek hk, hb.getElem?_peek hk]
    exact h.kept (index + k) (by omega)
  · rw [List.getElem?_eq_none, List.getElem?_eq_none]
    · rw [hb.length_peek hin]
      exact Nat.le_of_not_lt hk
    · rw [hb'.length_peek (Nat.le_trans hin hmore)]
      exact Nat.le_of_not_lt hk

namespace Backed

theorem provided_same (h : b.Backed m) {wanted : Nat} (hfits : wanted ≤ b.writableBytes) :
    b.Provided m wanted b m where
  room := hfits
  same _ := ⟨rfl, rfl⟩
  larger hless := absurd hfits (Nat.not_le_of_lt hless)
  ceiling := h.valid.capacity_le_max
  cursors := rfl
  bytes _ _ _ := rfl
  elsewhere := Memory.Becomes.refl _ _

/-- Growing provides the room. What is asked for is more than the capacity, so the buffer does
    become larger. -/
theorem provided_larger (h : b.Backed m) {wanted : Nat} (hless : b.writableBytes < wanted)
    (hroom : wanted ≤ b.maxWritableBytes) :
    b.Provided m wanted (b.reallocate m (b.grownCapacity (b.writer + wanted))).1
      (b.reallocate m (b.grownCapacity (b.writer + wanted))).2 := by
  have hrehoused := rehoused_reallocate h (b.grownCapacity (b.writer + wanted))
  have hwriter := h.valid.writer_le_capacity
  have hmax := h.valid.capacity_le_max
  have hwanted : b.writer + wanted ≤ b.maxCapacity := by
    unfold maxWritableBytes at hroom
    omega
  have hreach : b.writer + wanted ≤ b.grownCapacity (b.writer + wanted) :=
    Capacity.le_grown hwanted
  have hceiling : b.grownCapacity (b.writer + wanted) ≤ b.maxCapacity := Capacity.grown_le _ _
  rcases h.reallocate hceiling with ⟨rs, m', hrealloc, hstep, hspan⟩
  rw [hrealloc] at hrehoused ⊢
  have hmore : b.capacity < b.writer + wanted := by
    unfold writableBytes at hless
    omega
  -- So the buffer is reallocated in earnest.
  have hcapacity : Region.span rs = b.grownCapacity (b.writer + wanted) := by omega
  have hkeeps : b.capacity ≤ Region.span rs := by omega
  refine ⟨?_, fun hfits => absurd hless (Nat.not_lt_of_le hfits), fun _ => ⟨?_, hcapacity⟩, ?_, rfl,
    fun index length hin => ?_, hrehoused.becomes⟩
  · change wanted ≤ Region.span rs - b.writer
    omega
  · change b.capacity < Region.span rs
    omega
  · change Region.span rs ≤ b.maxCapacity
    omega
  · exact hrehoused.peek h hstep.backed hkeeps hin

/-- What comes of asking a backed buffer for room. -/
theorem rooms (h : b.Backed m) : b.Rooms m where
  granted := by
    intro wanted hroom
    unfold Buffer.ensureWritableBytes Buffer.ensureWritable
    by_cases hfits : wanted ≤ b.writableBytes
    · refine ⟨b, m, h.provided_same hfits, if_pos hfits, fun force => ?_⟩
      rw [if_pos hfits, if_pos hfits]
    · -- Force has no say where the ceiling allows what is asked for.
      refine ⟨_, _, h.provided_larger (Nat.lt_of_not_le hfits) hroom, ?_, fun force => ?_⟩
      · rw [if_neg hfits, if_neg (Nat.not_lt_of_le hroom)]
      · rw [if_neg hfits, if_neg (Nat.not_lt_of_le hroom), if_neg hfits]
  refused := by
    intro wanted hmore
    have hmax := h.valid.capacity_le_max
    have hfits : ¬ wanted ≤ b.writableBytes := by
      unfold maxWritableBytes at hmore
      unfold writableBytes
      omega
    unfold Buffer.ensureWritableBytes Buffer.ensureWritable
    refine ⟨by rw [if_neg hfits, if_pos hmore], fun force => ?_⟩
    rw [if_neg hfits, if_pos hmore]
    by_cases hforce : (!force || b.capacity == b.maxCapacity) = true
    · refine ⟨_, b, m, if_pos hforce, Or.inl ⟨rfl, rfl, rfl, fun hf => ?_⟩⟩
      simpa [hf] using hforce
    · -- A buffer that is forced goes up to its ceiling, although that is not enough.
      rcases h.reallocate (Nat.le_refl b.maxCapacity) with ⟨rs, m', hrealloc, -, hspan⟩
      have hless : force = true ∧ b.capacity ≠ b.maxCapacity := by simpa using hforce
      rw [if_neg hforce, hrealloc]
      refine ⟨_, _, _, rfl, Or.inr ⟨rfl, hless.1, ?_, ?_⟩⟩
      · change b.capacity < Region.span rs
        omega
      · change Region.span rs = b.maxCapacity
        omega

end Backed

end Buffer

end Conduit
