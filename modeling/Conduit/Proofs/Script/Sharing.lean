import Conduit.Proofs.Script.Effect

/-!
# Buffers That Share Their Bytes

What a step done to one buffer means for the others. Views are not copies, so a write
through one of them can be seen through another, but it is seen in one way only: where
an index of the one denotes the same byte of storage as an index of the other that was
written, and then as the byte that was written there last. Nothing else about another
buffer changes, neither its cursors nor its marks, its order or its capacity.

Sharing ends without a word when a buffer grows. From then on it lies in storage of its
own, and so does a copy from the start. What may share that storage are the buffers
that are made as views of it later, and views of those; `Registers.line` follows their
names through a program, and drops a name under which something else is stored. Whatever
a program does after that, no buffer outside the line looks at a byte of the buffer.

It is not said that a buffer in the line does share bytes. It may have grown itself, or be
laid over a buffer outside the line as well, and then a write through it is seen there.

## Main definitions

* `Registers.place?`, `Registers.byte?`: Where a byte of a named buffer lies, and the byte.
* `Registers.Grows`: A step makes room for the buffer that it works on.
* `BufferStep.heirs`, `Registers.line`: The names of the views of a buffer, and of their views.
* `Registers.Stays`: A program makes no new buffer under a name.
* `Registers.Severed`: A buffer shares no byte with any that is not in its line.
* `Registers.Shared`: What a step means for all buffers.

## Theorems

* `place?_congr`, `place?_eq`, `byte?_eq`, `exists_of_place?`: Where a byte of a buffer lies.
* `stroke_of_brings`, `brings_of_covers`, `exists_of_covers`: A step that writes makes no
  buffers.
* `Effect.regions_eq`, `Effect.lies`: Where a buffer lies after a step.
* `Effect.seen`: What a step writes, and what is seen of it.
* `step_untouched`, `step_struck`: Bytes that were not written, and those that were.
* `step_standing`: Unless a buffer grows, all buffers lie where they lay.
* `not_mem_heirs`, `mem_heirs`, `mem_line`, `Sound.there`: Lines of views.
* `step_apart`, `run_apart`: A buffer stays apart from those that are not in its line.
* `grown_apart`, `brought_apart`: Buffers that are apart from all others.
* `byte?_of_apart`, `Apart.severed`: What does not reach a buffer does not show in it.
* `step_shared`, `run_shared`: Whatever came before, each step treats shared bytes that way.
* `run_shared_sampleSharing`: A buffer that has a view, and grows.
-/

namespace Conduit

open Region

/-- The names of a line of views after a step. -/
def BufferStep.heirs (s : BufferStep) (names : List String) (reply : BufferReply) : List String :=
  if ∃ name ∈ s.draws, name ∈ names then s.brings reply ++ names
  else names.filter (· ∉ s.brings reply)

namespace Registers

variable {r r' : Registers} {s : BufferStep} {result : BufferReply × Registers}
  {name x : String} {names : List String}

/-- Where the byte at an index of a named buffer lies. -/
def place? (r : Registers) (name : String) (i : Nat) : Option Location :=
  (r.get? name).bind (·.place? i)

/-- The byte at an index of a named buffer. -/
def byte? (r : Registers) (name : String) (i : Nat) : Option UInt8 :=
  (r.get? name).bind fun b => r.memory.byteAt b.regions i

/-- A step gives the buffer that it works on more room. -/
def Grows (r : Registers) (s : BufferStep) : Prop :=
  s.register ∉ s.brings (r.step s).1 ∧ ∃ b b', r.get? s.register = some b ∧
    (r.step s).2.get? s.register = some b' ∧ b.capacity < b'.capacity

/-- The names of a line of views after a program. -/
def line (r : Registers) (names : List String) : List BufferStep → List String
  | [] => names
  | s :: steps => (r.step s).2.line (s.heirs names (r.step s).1) steps

/-- No step of a program makes a new buffer under the name. -/
def Stays (r : Registers) (x : String) : List BufferStep → Prop
  | [] => True
  | s :: steps => x ∉ s.brings (r.step s).1 ∧ (r.step s).2.Stays x steps

/-- A buffer shares no byte with any that is not in its line. -/
structure Severed (r : Registers) (x : String) (names : List String) : Prop where
  apart : ∀ name ∉ names, ∀ i j a, r.place? name i = some a → r.place? x j ≠ some a
  /-- What is done to a buffer that is not in the line does not show in the buffer. -/
  unseeing : ∀ t : BufferStep, (∀ w, t.act = .inr w → t.register ∉ names) →
    x ∉ t.brings (r.step t).1 → ∀ i, (r.place? x i).isSome → (r.step t).2.byte? x i = r.byte? x i
  /-- What is done to the buffer does not show in one that is not in the line. -/
  unseen : ∀ t : BufferStep, t.register = x → ∀ name ∉ names, name ∉ t.brings (r.step t).1 →
    ∀ i, (r.place? name i).isSome → (r.step t).2.byte? name i = r.byte? name i

/-- What a step means for all buffers. -/
structure Shared (r : Registers) (s : BufferStep) : Prop where
  /-- A buffer that is neither worked on nor made nor drained is the same buffer afterwards. -/
  others : ∀ name, name ≠ s.register → name ∉ s.brings (r.step s).1 →
    s.act ≠ .inr (.drainFrom name) → (r.step s).2.get? name = r.get? name
  /-- Of a buffer that is drained into another, the reader moves. -/
  drained : ∀ name c, s.act = .inr (.drainFrom name) → r.get? name = some c →
    ∃ reader, (r.step s).2.get? name = some { c with reader := reader }
  /-- What is written is written into the buffer that is worked on. -/
  inside : ∀ k, (r.stroke s).Covers k → ((r.step s).2.place? s.register k).isSome
  /-- A byte is as it was if no index that was written denotes it, also in the buffer that is
      worked on, wherever that lies afterwards. -/
  untouched : ∀ name i, name ∉ s.brings (r.step s).1 → (r.place? name i).isSome →
    (∀ k, (r.stroke s).Covers k →
      (r.step s).2.place? s.register k ≠ (r.step s).2.place? name i) →
    (r.step s).2.byte? name i = r.byte? name i
  /-- A byte that was written is what was written there last. -/
  struck : ∀ name i k, name ∉ s.brings (r.step s).1 → (r.place? name i).isSome →
    (r.stroke s).Covers k →
    (r.step s).2.place? s.register k = (r.step s).2.place? name i →
    (∀ k', k < k' → (r.stroke s).Covers k' →
      (r.step s).2.place? s.register k' ≠ (r.step s).2.place? name i) →
    (r.step s).2.byte? name i = (r.stroke s).byte? k
  /-- Bytes stay where they lie, unless the buffer grows. -/
  standing : ¬ r.Grows s → ∀ name i, name ∉ s.brings (r.step s).1 →
    (r.step s).2.place? name i = r.place? name i
  /-- A buffer that has grown, or that was made as a view of nothing, keeps to itself in every
      program that follows, apart from what is made as a view of it. -/
  severed : ∀ x, (r.Grows s ∧ x = s.register) ∨ (s.draws = [] ∧ x ∈ s.brings (r.step s).1) →
    ∀ later, (r.step s).2.Stays x later →
      ((r.step s).2.run later).2.Severed x ((r.step s).2.line [x] later)

/-! ### What is seen -/

theorem place?_congr (h : (r'.get? name).map (·.regions) = (r.get? name).map (·.regions))
    (i : Nat) :
    r'.place? name i = r.place? name i := by
  have hplace : ∀ r : Registers, r.place? name i =
      ((r.get? name).map (·.regions)).bind fun rs => (addresses rs)[i]? := by
    intro r
    rw [place?]
    cases r.get? name <;> rfl
  rw [hplace, hplace, h]

theorem place?_eq {b : Buffer} (hb : r.get? name = some b) (i : Nat) :
    r.place? name i = b.place? i := by
  rw [place?, hb, Option.bind_some]

theorem byte?_eq {b : Buffer} (hb : r.get? name = some b) (i : Nat) :
    r.byte? name i = r.memory.byteAt b.regions i := by
  rw [byte?, hb, Option.bind_some]

/-- There is a buffer with a name if a byte of it lies somewhere. -/
theorem exists_of_place? {i : Nat} (h : (r.place? name i).isSome = true) :
    ∃ b, r.get? name = some b ∧ i < b.capacity := by
  cases hb : r.get? name with
  | none =>
      rw [place?, hb] at h
      exact nomatch h
  | some b =>
      rw [place?_eq hb, Buffer.isSome_place?] at h
      exact ⟨b, rfl, h⟩

/-- A step that makes buffers writes nothing. -/
theorem stroke_of_brings {reply : BufferReply} (h : s.brings reply ≠ []) : r.stroke s = {} := by
  rcases s with ⟨register, shown, making | w⟩
  · rfl
  · cases hb : r.get? register with
    | none => rw [stroke, hb]
    | some b =>
        rw [stroke_working hb]
        cases w with
        | readBytes _ _ | readSlice _ _ | decompose _ _ _ | components _ => rfl
        | _ => exact absurd rfl h

/-- A buffer that is written to is not a new one. -/
theorem brings_of_covers {reply : BufferReply} {k : Nat} (hk : (r.stroke s).Covers k) :
    s.register ∉ s.brings reply := by
  intro hmade
  rw [stroke_of_brings (List.ne_nil_of_mem hmade)] at hk
  exact Stroke.not_covers_nil 0 k hk

/-- Where something is written, a buffer is worked on. -/
theorem exists_of_covers {k : Nat} (hk : (r.stroke s).Covers k) :
    ∃ w b, s.act = .inr w ∧ r.get? s.register = some b := by
  rcases s with ⟨register, shown, making | w⟩
  · exact absurd hk (Stroke.not_covers_nil 0 k)
  · cases hb : r.get? register with
    | none =>
        rw [stroke, hb] at hk
        exact absurd hk (Stroke.not_covers_nil 0 k)
    | some b => exact ⟨w, b, rfl, rfl⟩

namespace Effect

/-- A buffer that is not worked on lies where it lay. -/
theorem regions_eq (h : Effect r s result) (hbrings : name ∉ s.brings result.1)
    (hnot : ∀ w b, s.act = .inr w → r.get? s.register = some b → name ≠ s.register) :
    (result.2.get? name).map (·.regions) = (r.get? name).map (·.regions) := by
  by_cases hdrained : ∃ c, s.act = .inr (.drainFrom name) ∧ r.get? name = some c
  · rcases hdrained with ⟨c, hact, hc⟩
    rcases h.drained name c hact hc with ⟨reader, hrest⟩
    rw [hrest, hc]
    rfl
  · rw [h.others name hbrings hnot fun c hact hc => hdrained ⟨c, hact, hc⟩]

/-- A buffer that is not made lies where it lay, or in new cells. -/
theorem lies (h : Effect r s result) (hbrings : name ∉ s.brings result.1) {c' : Buffer}
    (hc' : result.2.get? name = some c') :
    ∃ c, r.get? name = some c ∧
      ∀ a ∈ addresses c'.regions, a.1 < r.memory.cells.size → a ∈ addresses c.regions := by
  by_cases hworked : ∃ w b, s.act = .inr w ∧ r.get? s.register = some b ∧ name = s.register
  · rcases hworked with ⟨w, b, hact, hb, rfl⟩
    refine ⟨b, hb, fun a ha hcell => ?_⟩
    by_cases hself : w = .drainFrom s.register
    · rcases h.drained s.register b (hself ▸ hact) hb with ⟨reader, hrest⟩
      rw [Option.some.inj (hc'.symm.trans hrest)] at ha
      exact ha
    · rcases h.strikes w b hact hb with ⟨b', hstrikes, hget⟩
      rw [Option.some.inj (hc'.symm.trans (hget hbrings hself))] at ha
      exact hstrikes.own ha hcell
  · have hregions := h.regions_eq hbrings fun w b hact hb hname => hworked ⟨w, b, hact, hb, hname⟩
    rw [hc', Option.map_some] at hregions
    rcases Option.map_eq_some_iff.mp hregions.symm with ⟨c, hc, hsame⟩
    exact ⟨c, hc, fun a ha _ => hsame ▸ ha⟩

/-- What a step writes, and what is seen of it through a buffer that is not made. Before the
    bytes are written, all that was seen is seen. -/
theorem seen (h : Effect r s result) (hr : r.Sound) (hself : s.act ≠ .inr (.drainFrom s.register))
    (hbrings : name ∉ s.brings result.1) {c : Buffer} (hc : r.get? name = some c) :
    ∃ c' own, ∃ mid : Memory, result.2.get? name = some c' ∧
      result.2.memory = mid.store own (r.stroke s).index (r.stroke s).bytes ∧
      (∀ k, (r.stroke s).Covers k → result.2.place? s.register k = (addresses own)[k]?) ∧
      ∀ i < c.capacity, mid.byteAt c'.regions i = r.memory.byteAt c.regions i := by
  -- A buffer that is not worked on is looked at first.
  have haside : (∀ w b, s.act = .inr w → r.get? s.register = some b → name ≠ s.register) →
      ∀ mid, r.memory.Becomes [] mid → ∃ c', result.2.get? name = some c' ∧
        ∀ i < c.capacity, mid.byteAt c'.regions i = r.memory.byteAt c.regions i := by
    intro hnot mid hmid
    have hregions := h.regions_eq hbrings hnot
    rw [hc, Option.map_some] at hregions
    rcases Option.map_eq_some_iff.mp hregions with ⟨c', hc', hsame⟩
    exact ⟨c', hc', fun i _ => hsame ▸ hmid.byteAt_eq (hr name c hc).fits i⟩
  by_cases hworked : ∃ w b, s.act = .inr w ∧ r.get? s.register = some b
  · rcases hworked with ⟨w, b, hact, hb⟩
    rcases h.strikes w b hact hb with ⟨b', ⟨mid, hhouse, hmemory, -⟩, hget⟩
    have hplace : ∀ k, (r.stroke s).Covers k →
        result.2.place? s.register k = (addresses b'.regions)[k]? := fun k hk =>
      place?_eq (hget (brings_of_covers hk) fun hw => hself (hw ▸ hact)) k
    by_cases hname : name = s.register
    · subst hname
      rw [Option.some.inj (hc.symm.trans hb)]
      exact ⟨b', b'.regions, mid, hget hbrings fun hw => hself (hw ▸ hact), hmemory, hplace,
        fun i hi => hhouse.kept i hi⟩
    · rcases haside (fun _ _ _ _ => hname) mid hhouse.becomes with ⟨c', hc', hbytes⟩
      exact ⟨c', b'.regions, mid, hc', hmemory, hplace, hbytes⟩
  · have hnone : ∀ w b, s.act = .inr w → r.get? s.register ≠ some b :=
      fun w b hact hb => hworked ⟨w, b, hact, hb⟩
    have hstroke : r.stroke s = {} := by
      rcases s with ⟨register, shown, making | w⟩
      · rfl
      · have hmissing : r.get? register = none :=
          Option.eq_none_iff_forall_ne_some.mpr fun b => hnone w b rfl
        rw [stroke, hmissing]
    rcases haside (fun w b hact hb => absurd hb (hnone w b hact)) _ (h.unwritten hnone) with
      ⟨c', hc', hbytes⟩
    rw [hstroke]
    exact ⟨c', [], result.2.memory, hc', (Memory.store_nil _ _ _).symm,
      fun k hk => absurd hk (Stroke.not_covers_nil 0 k), hbytes⟩

end Effect

/-- A byte is as it was if no index that was written denotes it. -/
theorem step_untouched (hr : r.Sound) (hself : s.act ≠ .inr (.drainFrom s.register)) {i : Nat}
    (hbrings : name ∉ s.brings (r.step s).1) (hi : (r.place? name i).isSome = true)
    (hk : ∀ k, (r.stroke s).Covers k →
      (r.step s).2.place? s.register k ≠ (r.step s).2.place? name i) :
    (r.step s).2.byte? name i = r.byte? name i := by
  rcases exists_of_place? hi with ⟨c, hc, hi⟩
  rcases (step_effect hr s).seen hr hself hbrings hc with ⟨c', own, mid, hc', hmemory, hplace, hmid⟩
  rw [byte?_eq hc', byte?_eq hc, hmemory, ← hmid i hi]
  refine Memory.byteAt_store_untouched fun k hlow hhigh hsame => hk k ⟨hlow, hhigh⟩ ?_
  rw [hplace k ⟨hlow, hhigh⟩, place?_eq hc']
  exact hsame

/-- A byte that was written is what was written there last. -/
theorem step_struck (hr : r.Sound) (hself : s.act ≠ .inr (.drainFrom s.register)) {i k : Nat}
    (hbrings : name ∉ s.brings (r.step s).1) (hi : (r.place? name i).isSome = true)
    (hk : (r.stroke s).Covers k)
    (hsame : (r.step s).2.place? s.register k = (r.step s).2.place? name i)
    (hlast : ∀ k', k < k' → (r.stroke s).Covers k' →
      (r.step s).2.place? s.register k' ≠ (r.step s).2.place? name i) :
    (r.step s).2.byte? name i = (r.stroke s).byte? k := by
  rcases exists_of_place? hi with ⟨c, hc, hi⟩
  rcases (step_effect hr s).seen hr hself hbrings hc with ⟨c', own, mid, hc', hmemory, hplace, hmid⟩
  have hbyte : (mid.byteAt c'.regions i).isSome = true := by
    rw [hmid i hi]
    exact (hr name c hc).isSome_byteAt hi
  rw [place?_eq hc', hplace k hk] at hsame
  rw [byte?_eq hc', hmemory, Stroke.byte?, if_pos hk.1]
  -- A store goes through its bytes in order, so the last index at an address decides.
  refine Memory.byteAt_store_last hk.1 hk.2 hsame (fun k' hlt hhigh hagain => ?_) hbyte
  have hcovers : (r.stroke s).Covers k' := ⟨Nat.le_trans hk.1 (Nat.le_of_lt hlt), hhigh⟩
  refine hlast k' hlt hcovers ?_
  rw [hplace k' hcovers, place?_eq hc']
  exact hagain

/-- Unless a buffer grows, all buffers lie where they lay. -/
theorem step_standing (hr : r.Sound) (hself : s.act ≠ .inr (.drainFrom s.register))
    (hnot : ¬ r.Grows s) (hbrings : name ∉ s.brings (r.step s).1) :
    ((r.step s).2.get? name).map (·.regions) = (r.get? name).map (·.regions) := by
  have heffect := step_effect hr s
  by_cases hworked : ∃ w b, s.act = .inr w ∧ r.get? s.register = some b ∧ name = s.register
  · rcases hworked with ⟨w, b, hact, hb, rfl⟩
    rcases heffect.strikes w b hact hb with ⟨b', hstrikes, hget⟩
    have hb' := hget hbrings fun hw => hself (hw ▸ hact)
    have hsame := hstrikes.same fun hmore => hnot ⟨hbrings, b, b', hb, hb', hmore⟩
    rw [hb', hb, Option.map_some, Option.map_some, hsame]
  · exact heffect.regions_eq hbrings fun w b hact hb hname => hworked ⟨w, b, hact, hb, hname⟩

/-! ### Keeping apart -/

/-- The bytes of a buffer lie apart from those of all buffers but the named ones. -/
def Apart (r : Registers) (x : String) (names : List String) : Prop :=
  ∀ name ∉ names, ∀ c b, r.get? name = some c → r.get? x = some b →
    ∀ a ∈ addresses c.regions, a ∉ addresses b.regions

/-- Who is not of a line that a step has gone on was made of nothing in it, or has been there. -/
theorem not_mem_heirs {reply : BufferReply} (h : name ∉ s.heirs names reply) :
    (name ∈ s.brings reply → ∀ source ∈ s.draws, source ∉ names) ∧
      (name ∉ s.brings reply → name ∉ names) := by
  rw [BufferStep.heirs] at h
  by_cases hdraws : ∃ source ∈ s.draws, source ∈ names
  · rw [if_pos hdraws, List.mem_append, not_or] at h
    exact ⟨fun hbrings => absurd hbrings h.1, fun _ => h.2⟩
  · rw [if_neg hdraws, List.mem_filter, decide_eq_true_iff, not_and, not_not] at h
    exact ⟨fun _ source hsource hmem => hdraws ⟨source, hsource, hmem⟩,
      fun hnot hmem => hnot (h hmem)⟩

theorem mem_heirs {reply : BufferReply} (hx : x ∈ names) (hstays : x ∉ s.brings reply) :
    x ∈ s.heirs names reply := by
  by_contra hnot
  exact (not_mem_heirs hnot).2 hstays hx

/-- All that a buffer looks at is there. -/
theorem Sound.there (hr : r.Sound) {c : Buffer} (hc : r.get? name = some c) {a : Location}
    (ha : a ∈ addresses c.regions) : a.1 < r.memory.cells.size :=
  Memory.lt_size_of_byte? (Memory.byte?_of_fits (hr name c hc).fits ha)

/-- A buffer stays apart from those that are not in its line. -/
theorem step_apart (hr : r.Sound) (h : r.Apart x names) (hx : x ∈ names)
    (hstays : x ∉ s.brings (r.step s).1) :
    (r.step s).2.Apart x (s.heirs names (r.step s).1) := by
  have heffect := step_effect hr s
  intro name hname c' b' hc' hb' a ha ha'
  rcases not_mem_heirs hname with ⟨hmade, hkept⟩
  rcases heffect.lies hstays hb' with ⟨b, hb, hlies⟩
  by_cases hbrings : name ∈ s.brings (r.step s).1
  · -- It is a view of buffers that were apart, and the buffer has not moved.
    rcases heffect.stands (List.ne_nil_of_mem hbrings) x hstays b' hb' with ⟨b₀, hb₀, hsame⟩
    rw [Option.some.inj (hb₀.symm.trans hb)] at hsame
    rw [hsame] at ha'
    rcases heffect.brought name hbrings c' hc' a ha (hr.there hb ha') with
      ⟨source, hsource, d, hd, had⟩
    exact h source (hmade hbrings source hsource) d b hd hb a had ha'
  · have hnot := hkept hbrings
    rcases heffect.lies hbrings hc' with ⟨c, hc, hlies'⟩
    -- One of the two is not worked on, and so lies where it lay.
    have hcell : a.1 < r.memory.cells.size := by
      by_cases hregister : name = s.register
      · have hother : x ≠ s.register := fun hsame => hnot (hregister ▸ hsame ▸ hx)
        have hregions := heffect.regions_eq hstays fun _ _ _ _ => hother
        rw [hb', hb, Option.map_some, Option.map_some] at hregions
        exact hr.there hb (Option.some.inj hregions ▸ ha')
      · have hregions := heffect.regions_eq hbrings fun _ _ _ _ => hregister
        rw [hc', hc, Option.map_some, Option.map_some] at hregions
        exact hr.there hc (Option.some.inj hregions ▸ ha)
    exact h name hnot c b hc hb a (hlies' a ha hcell) (hlies a ha' hcell)

theorem run_apart (hr : r.Sound) (h : r.Apart x names) (hx : x ∈ names)
    {steps : List BufferStep} (hstays : r.Stays x steps) :
    (r.run steps).2.Apart x (r.line names steps) := by
  induction steps generalizing r names with
  | nil => exact h
  | cons s steps ih =>
      exact ih (step_kept hr s).sound (step_apart hr h hx hstays.1) (mem_heirs hx hstays.1)
        hstays.2

theorem mem_line (hx : x ∈ names) {steps : List BufferStep} (hstays : r.Stays x steps) :
    x ∈ r.line names steps := by
  induction steps generalizing r names with
  | nil => exact hx
  | cons s steps ih => exact ih (mem_heirs hx hstays.1) hstays.2

/-- A buffer that has grown is apart from all others. -/
theorem grown_apart (hr : r.Sound) (hself : s.act ≠ .inr (.drainFrom s.register))
    (h : r.Grows s) : (r.step s).2.Apart s.register [s.register] := by
  have heffect := step_effect hr s
  rcases h with ⟨hbrings, b, b', hb, hb', hmore⟩
  -- To have more capacity a buffer has to lie elsewhere.
  have hmoved : b'.regions ≠ b.regions := by
    intro hsame
    rw [Buffer.capacity, Buffer.capacity, hsame] at hmore
    exact absurd hmore (Nat.lt_irrefl _)
  intro name hname c' b₀ hc' hb₀ a ha ha'
  rw [Option.some.inj (hb₀.symm.trans hb')] at ha'
  have hother : name ≠ s.register := fun h => hname (List.mem_singleton.mpr h)
  -- A buffer that was made would have left this one where it lay.
  have hkept : name ∉ s.brings (r.step s).1 := by
    intro hmade
    rcases heffect.stands (List.ne_nil_of_mem hmade) s.register hbrings b' hb' with ⟨b₁, hb₁, hsame⟩
    exact hmoved (Option.some.inj (hb₁.symm.trans hb) ▸ hsame)
  have hregions := heffect.regions_eq hkept fun _ _ _ _ => hother
  rw [hc', Option.map_some] at hregions
  rcases Option.map_eq_some_iff.mp hregions.symm with ⟨c, hc, hsame⟩
  have hcell : a.1 < r.memory.cells.size := hr.there hc (hsame ▸ ha)
  by_cases hworked : ∃ w, s.act = .inr w
  · rcases hworked with ⟨w, hact⟩
    rcases heffect.strikes w b hact hb with ⟨b₁, hstrikes, hget⟩
    have hb₁ := hget hbrings fun hw => hself (hw ▸ hact)
    rw [Option.some.inj (hb₁.symm.trans hb')] at hstrikes
    exact absurd (hstrikes.fresh hmore ha') (Nat.not_le_of_lt hcell)
  · have hstill := heffect.regions_eq hbrings fun w _ hact => absurd ⟨w, hact⟩ hworked
    rw [hb', hb, Option.map_some, Option.map_some] at hstill
    exact absurd (Option.some.inj hstill) hmoved

/-- A buffer that is a view of nothing is apart from all others. -/
theorem brought_apart (hr : r.Sound) (hdraws : s.draws = []) (hx : x ∈ s.brings (r.step s).1) :
    (r.step s).2.Apart x [x] := by
  have heffect := step_effect hr s
  intro name hname c' b' hc' hb' a ha ha'
  have hbrings : name ∉ s.brings (r.step s).1 := fun hmade =>
    hname (List.mem_singleton.mpr (heffect.alone hdraws x hx name hmade))
  rcases heffect.stands (List.ne_nil_of_mem hx) name hbrings c' hc' with ⟨c, hc, hsame⟩
  rcases heffect.brought x hx b' hb' a ha' (hr.there hc (hsame ▸ ha)) with ⟨source, hsource, -⟩
  rw [hdraws] at hsource
  exact absurd hsource List.not_mem_nil

/-- What does not reach a buffer does not show in it. -/
theorem byte?_of_apart (hr : r.Sound) {t : BufferStep} {name : String}
    (hbrings : name ∉ t.brings (r.step t).1)
    (hnot : ∀ w b, t.act = .inr w → r.get? t.register = some b → name ≠ t.register ∧
      ∀ c, r.get? name = some c → ∀ a ∈ addresses c.regions, a ∉ addresses b.regions)
    {i : Nat} (hi : (r.place? name i).isSome = true) :
    (r.step t).2.byte? name i = r.byte? name i := by
  have heffect := step_effect hr t
  have hbecomes := (step_kept hr t).becomes
  rcases exists_of_place? hi with ⟨c, hc, hin⟩
  have hregions := heffect.regions_eq hbrings fun w b hact hb => (hnot w b hact hb).1
  rw [hc, Option.map_some] at hregions
  rcases Option.map_eq_some_iff.mp hregions with ⟨c', hc', hsame⟩
  rw [byte?_eq hc', byte?_eq hc, hsame, Memory.byteAt_eq, Memory.byteAt_eq]
  -- A byte is seen at its address, so it is enough that nothing was written there.
  cases hplace : (addresses c.regions)[i]? with
  | none => rfl
  | some a =>
      have ha := List.mem_of_getElem? hplace
      refine hbecomes.frame a (hr.there hc ha) ?_
      -- What may be written to is what is worked on.
      rcases t with ⟨register, shown, making | w⟩
      · exact List.not_mem_nil
      · cases hb : r.get? register with
        | none =>
            rw [target, hb]
            exact List.not_mem_nil
        | some b =>
            rw [target, hb]
            exact (hnot w b rfl hb).2 c hc a ha

theorem Apart.severed (h : r.Apart x names) (hr : r.Sound) (hx : x ∈ names) :
    r.Severed x names where
  apart := by
    intro name hname i j a hi hj
    rcases exists_of_place? (Option.isSome_of_eq_some hi) with ⟨c, hc, -⟩
    rcases exists_of_place? (Option.isSome_of_eq_some hj) with ⟨b, hb, -⟩
    rw [place?_eq hc] at hi
    rw [place?_eq hb] at hj
    exact h name hname c b hc hb a (List.mem_of_getElem? hi) (List.mem_of_getElem? hj)
  unseeing := by
    intro t hregister hbrings i hi
    refine byte?_of_apart hr hbrings (fun w c hact hc => ?_) hi
    have hother := hregister w hact
    exact ⟨fun hsame => hother (hsame ▸ hx), fun b hb a ha ha' =>
      h t.register hother c b hc hb a ha' ha⟩
  unseen := by
    rintro t rfl name hname hbrings i hi
    refine byte?_of_apart hr hbrings (fun w b _ hb => ?_) hi
    exact ⟨fun hsame => hname (hsame ▸ hx), fun c hc a ha => h name hname c b hc hb a ha⟩

/-! ### Programs -/

theorem step_shared (hr : r.Sound) (hself : s.act ≠ .inr (.drainFrom s.register)) :
    r.Shared s where
  others := fun name hregister hbrings hdrain =>
    (step_effect hr s).others name hbrings (fun _ _ _ _ => hregister)
      fun _ hact => absurd hact hdrain
  drained := (step_effect hr s).drained
  inside := by
    intro k hk
    have hbrings : s.register ∉ s.brings (r.step s).1 := brings_of_covers hk
    rcases exists_of_covers hk with ⟨w, b, hact, hb⟩
    rcases (step_effect hr s).strikes w b hact hb with ⟨b', hstrikes, hget⟩
    have hin := hstrikes.inside hk
    rw [← Buffer.isSome_place?] at hin
    rwa [place?_eq (hget hbrings fun hw => hself (hw ▸ hact))]
  untouched := fun _ _ hbrings hi hk => step_untouched hr hself hbrings hi hk
  struck := fun _ _ _ hbrings hi hk hsame hlast => step_struck hr hself hbrings hi hk hsame hlast
  standing := fun hnot _ i hbrings => place?_congr (step_standing hr hself hnot hbrings) i
  severed := by
    intro x hx later hstays
    have hsound := (step_kept hr s).sound
    -- A buffer comes to be alone by growing, or by being made without a source.
    have hapart : (r.step s).2.Apart x [x] := by
      rcases hx with ⟨hgrows, rfl⟩ | ⟨hdraws, hbrings⟩
      · exact grown_apart hr hself hgrows
      · exact brought_apart hr hdraws hbrings
    have hmem := List.mem_singleton_self x
    exact (run_apart hsound hapart hmem hstays).severed (run_sound hsound later)
      (mem_line hmem hstays)

/-- Whatever came before, a step treats the bytes that buffers share as shared, and no others.
    A buffer is never drained into itself. -/
theorem run_shared (steps : List BufferStep) (s : BufferStep)
    (hself : s.act ≠ .inr (.drainFrom s.register)) : Shared (run {} steps).2 s :=
  step_shared (run_sound sound_nil steps) hself

/-- A buffer that is full, and a view of it. -/
def sampleSharing : List BufferStep :=
  [⟨"b", "b", .inl (.growable .big 2)⟩, ⟨"b", "b", .inr (.write [1, 2])⟩,
    ⟨"v", "v", .inl (.slice "b" 0 2)⟩]

/-- One more byte, for which the buffer has to grow. -/
def sampleGrowth : BufferStep := ⟨"b", "b", .inr (.write [3])⟩

theorem run_shared_sampleSharing :
    sampleGrowth.act ≠ .inr (.drainFrom sampleGrowth.register) ∧
      Shared (run {} sampleSharing).2 sampleGrowth :=
  ⟨nofun, run_shared sampleSharing sampleGrowth nofun⟩

/-- The view shares its bytes with the buffer, until the buffer grows. -/
example : ["v", "b"].map (fun name =>
    ((run {} sampleSharing).2.place? name 1,
      ((run {} sampleSharing).2.step sampleGrowth).2.place? name 1)) =
    [(some (0, 1), some (0, 1)), (some (0, 1), some (1, 1))] := by
  decide +kernel

end Registers

end Conduit
