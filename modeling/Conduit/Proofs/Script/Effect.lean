import Conduit.Proofs.Buffer.Stroke
import Conduit.Proofs.Script.Bounds

/-!
# What a Step Does to All Buffers

`Registers.Kept` says what a step leaves alone. This says what it does: which bytes it
writes through the buffer that it works on, which buffers it makes and what those look
at, and that it leaves every other buffer as it is. Only a buffer that is drained is
touched without being worked on, and only its reader moves.

Which buffers are made is read off the step and its answer, and so is what they are
views of. A copy is a view of nothing.

## Main definitions

* `BufferStep.brings`: The names under which a step stores buffers that it makes.
* `BufferStep.draws`: The names of the buffers that those are views of.
* `Registers.stroke`: What a step writes, and where.
* `Registers.Reaches`: A buffer with one of some names looks at an address.
* `Registers.Effect`: What a step does.

## Theorems

* `get?_putAll`, `get?_putNumbered`, `memory_putNumbered`: Buffers that are stored under
  numbered names.
* `stroke_working`, `forall_brought`: A step that works on a buffer, or makes none.
* `Effect.nothing`, `Effect.after`, `Effect.showTaken`, `Effect.showParts`, `Effect.drain`:
  The ways in which a step ends.
* `Fresh.ofBytes`, `Fresh.empty`, `Fresh.wrap`, `Fresh.copied`, `Fresh.allocAll`,
  `Fresh.wrapParts`, `Fresh.bufferOf`, `Fresh.reaches`: New cells.
* `mem_addresses_clip`, `mem_addresses_ofRegions`, `reaches_view`: Views.
* `make_draws`: A buffer that is made looks at what it is a view of, or at new cells.
* `yields_unless`, `setReader_regions`, `setWriter_regions`, `setCursors_regions`,
  `skip_regions`, `readBytes_fresh`, `readSlice_within`, `mem_addresses_part`,
  `tryReadWord_regions`: Where a buffer lies after a single operation.
* `useWord_strikes`, `work_effect`: What is done to all buffers by working on one.
* `setting_of_error`, `prepending_of_error`, `useWord_stroke_of_error`, `stroke_of_error`,
  `keeps_failed`: What is refused.
* `make_effect`, `step_effect`: What a step does to all buffers.
-/

namespace Conduit

open Region
open Buffer (Made)

/-- The names of the buffers that a new one is a view of. -/
def Making.draws : Making → List String
  | .wrapOf source | .duplicate source | .withOrder source _ | .readableSlice source
  | .slice source _ _ => [source]
  | .wrapAll sources => sources
  | _ => []

/-- The names under which new buffers are stored besides the one that is worked on. -/
def Working.keeps (w : Working) (reply : BufferReply) : List String :=
  match w, reply with
  | .readBytes _ (some target), .excerpt _ | .readSlice _ (some target), .excerpt _ => [target]
  | .decompose _ _ (some stem), .snapshots parts | .components (some stem), .snapshots parts =>
    (List.range parts.length).map fun i => stem ++ toString i
  | _, _ => []

/-- What is written with a number. -/
def WordUse.stroke (b : Buffer) (numeral : Numeral) : WordUse → Stroke
  | .set index value => b.setting index (Word.encode b.order (Registers.bitsOf numeral value))
  | .write value => b.appending (Word.encode b.order (Registers.bitsOf numeral value))
  | .writeAhead value => b.prepending (Word.encode b.order (Registers.bitsOf numeral value))
  | .get _ | .read | .tryRead => {}

/-- What is written by working on a buffer. -/
def Working.stroke (r : Registers) (b : Buffer) : Working → Stroke
  | .word numeral use => use.stroke b numeral
  | .discardReadBytes => b.discarding r.memory
  | .setBytes index bytes => b.setting index bytes
  | .setZero index length => b.setting index (List.replicate (min length (b.capacity - index)) 0)
  | .write bytes => b.appending bytes
  | .writeZero length => b.appending (List.replicate (min length b.maxWritableBytes) 0)
  | .writeAhead bytes => b.prepending bytes
  | .writeZeroAhead length => b.prepending (List.replicate (min length b.reader) 0)
  | .drainFrom source =>
    match r.get? source with
    | some src => b.appending (src.content r.memory)
    | none => {}
  | _ => {}

namespace BufferStep

/-- The names under which a step stores buffers that it makes. -/
def brings (s : BufferStep) (reply : BufferReply) : List String :=
  match s.act, reply with
  | .inl _, .done => [s.register]
  | .inl _, _ => []
  | .inr w, reply => w.keeps reply

/-- The names of the buffers that those are views of. -/
def draws (s : BufferStep) : List String :=
  match s.act with
  | .inl making => making.draws
  | .inr (.readSlice ..) | .inr (.decompose ..) | .inr (.components _) => [s.register]
  | .inr _ => []

end BufferStep

namespace Registers

variable {r : Registers} {register shown : String} {b b' : Buffer} {w : Working}
  {reply : BufferReply} {m' : Memory}

/-- What a step writes, and where. -/
def stroke (r : Registers) (s : BufferStep) : Stroke :=
  match s.act, r.get? s.register with
  | .inr w, some b => w.stroke r b
  | _, _ => {}

/-- A buffer with one of the names looks at the address. -/
def Reaches (r : Registers) (names : List String) (a : Location) : Prop :=
  ∃ name ∈ names, ∃ b, r.get? name = some b ∧ a ∈ addresses b.regions

/-- What a step does. -/
structure Effect (r : Registers) (s : BufferStep) (result : BufferReply × Registers) : Prop where
  /-- A buffer that is neither made nor worked on nor drained stays as it is. -/
  others : ∀ name ∉ s.brings result.1,
    (∀ w b, s.act = .inr w → r.get? s.register = some b → name ≠ s.register) →
    (∀ c, s.act = .inr (.drainFrom name) → r.get? name ≠ some c) →
    result.2.get? name = r.get? name
  /-- Of a buffer that is drained, the reader moves. -/
  drained : ∀ name c, s.act = .inr (.drainFrom name) → r.get? name = some c →
    ∃ reader, result.2.get? name = some { c with reader := reader }
  /-- A buffer that is worked on is written to in one stroke. -/
  strikes : ∀ w b, s.act = .inr w → r.get? s.register = some b →
    ∃ b', b.Strikes r.memory b' result.2.memory (r.stroke s) ∧
      (s.register ∉ s.brings result.1 → w ≠ .drainFrom s.register →
        result.2.get? s.register = some b')
  /-- If nothing is worked on, nothing is written. -/
  unwritten : (∀ w b, s.act = .inr w → r.get? s.register ≠ some b) →
    r.memory.Becomes [] result.2.memory
  /-- A buffer that is made looks at what it is a view of, or at new cells. -/
  brought : ∀ name ∈ s.brings result.1, ∀ c, result.2.get? name = some c →
    ∀ a ∈ addresses c.regions, a.1 < r.memory.cells.size → r.Reaches s.draws a
  /-- A step that makes buffers moves none. -/
  stands : s.brings result.1 ≠ [] → ∀ name ∉ s.brings result.1, ∀ c,
    result.2.get? name = some c → ∃ c₀, r.get? name = some c₀ ∧ c.regions = c₀.regions
  /-- Of buffers that are views of nothing, one is made at a time. -/
  alone : s.draws = [] → ∀ name ∈ s.brings result.1, ∀ name' ∈ s.brings result.1, name' = name

/-! ### Names -/

theorem get?_putAll (stem : String) (es : List (Buffer × Nat)) (r : Registers) (name : String) :
    (name ∈ es.map (fun e => stem ++ toString e.2) →
      ∃ e ∈ es, (es.foldl (fun r e => r.put (stem ++ toString e.2) e.1) r).get? name =
        some e.1) ∧
    (name ∉ es.map (fun e => stem ++ toString e.2) →
      (es.foldl (fun r e => r.put (stem ++ toString e.2) e.1) r).get? name = r.get? name) := by
  induction es generalizing r with
  | nil => exact ⟨fun h => absurd h List.not_mem_nil, fun _ => rfl⟩
  | cons e es ih =>
      rcases ih (r.put (stem ++ toString e.2) e.1) with ⟨hin, hout⟩
      rw [List.map_cons, List.foldl_cons]
      refine ⟨fun h => ?_, fun h => ?_⟩
      · by_cases hlater : name ∈ es.map fun e => stem ++ toString e.2
        · rcases hin hlater with ⟨e', he', hget⟩
          exact ⟨e', List.mem_cons_of_mem e he', hget⟩
        · -- It is stored here, and not again.
          have hname : name = stem ++ toString e.2 := (List.mem_cons.mp h).resolve_right hlater
          exact ⟨e, List.mem_cons_self, by rw [hout hlater, get?_put, if_pos hname]⟩
      · rw [List.mem_cons, not_or] at h
        rw [hout h.2, get?_put, if_neg h.1]

/-- A numbered buffer is one of those that were stored. -/
theorem get?_putNumbered (r : Registers) (stem : String) (bs : List Buffer) (name : String) :
    (name ∈ (List.range bs.length).map (fun i => stem ++ toString i) →
      ∃ c ∈ bs, (r.putNumbered stem bs).get? name = some c) ∧
    (name ∉ (List.range bs.length).map (fun i => stem ++ toString i) →
      (r.putNumbered stem bs).get? name = r.get? name) := by
  -- The names are those of the indices that the buffers are stored with.
  have hnames : (List.range bs.length).map (fun i => stem ++ toString i) =
      bs.zipIdx.map fun e => stem ++ toString e.2 := by
    rw [List.range_eq_range', ← List.zipIdx_map_snd 0 bs, List.map_map]
    rfl
  rw [hnames]
  rcases get?_putAll stem bs.zipIdx r name with ⟨hin, hout⟩
  refine ⟨fun h => ?_, hout⟩
  rcases hin h with ⟨e, he, hget⟩
  exact ⟨e.1, List.fst_mem_of_mem_zipIdx he, hget⟩

theorem memory_putNumbered (r : Registers) (stem : String) (bs : List Buffer) :
    (r.putNumbered stem bs).memory = r.memory := by
  rw [putNumbered]
  generalize bs.zipIdx = es
  induction es generalizing r with
  | nil => rfl
  | cons e es ih => rw [List.foldl_cons, ih, memory_put]

/-! ### The forms of steps -/

theorem stroke_working (hb : r.get? register = some b) :
    r.stroke ⟨register, shown, .inr w⟩ = w.stroke r b := by
  rw [stroke, hb]

/-- What holds of all names of buffers that are made when there are none. -/
theorem forall_brought {names : List String} (h : names = []) {P : String → Prop} :
    ∀ name ∈ names, P name := fun _ hname => absurd (h ▸ hname) List.not_mem_nil

namespace Effect

/-- A step that changes nothing. -/
theorem nothing {s : BufferStep} (hbrings : s.brings reply = []) (hstroke : r.stroke s = {}) :
    Effect r s (reply, r) where
  others := fun _ _ _ _ => rfl
  drained := fun _ c _ hc => ⟨c.reader, hc⟩
  strikes := fun _ b _ hb => ⟨b, hstroke ▸ Buffer.strikes_nothing rfl, fun _ _ => hb⟩
  unwritten := fun _ => Memory.Becomes.refl _ _
  brought := forall_brought hbrings
  stands := fun hsome => absurd hbrings hsome
  alone := fun _ => forall_brought hbrings

/-- A step that stores what an operation has made of a buffer. -/
theorem after (hb : r.get? register = some b) (hkeeps : w.keeps reply = [])
    (hdrain : ∀ name, w ≠ .drainFrom name)
    (h : b.Strikes r.memory b' m' (w.stroke r b)) :
    Effect r ⟨register, shown, .inr w⟩ (r.after register reply b' m') where
  others := by
    intro name _ hname _
    exact (get?_put _ _ _ _).trans (if_neg (hname w b rfl hb))
  drained := fun name _ hact => absurd (Sum.inr.inj hact) (hdrain name)
  strikes := by
    rintro _ c ⟨⟩ hc
    rw [Option.some.inj (hc.symm.trans hb), stroke_working hb]
    refine ⟨b', ?_, fun _ _ => (get?_put _ _ _ _).trans (if_pos rfl)⟩
    rw [Registers.after, memory_put]
    exact h
  unwritten := fun hnone => absurd hb (hnone w b rfl)
  brought := forall_brought hkeeps
  stands := fun hsome => absurd hkeeps hsome
  alone := fun _ => forall_brought hkeeps

/-- A step that takes a buffer out of another one, and may store it. -/
theorem showTaken (hbacked : b.Backed r.memory) (hb : r.get? register = some b)
    {taken rest : Buffer} {keep : Option String}
    (hkeeps : ∀ content, w.keeps (.excerpt content) = keep.toList)
    (hdrain : ∀ name, w ≠ .drainFrom name) (hstroke : w.stroke r b = {})
    (hrest : rest.regions = b.regions) (hm : r.memory.Becomes [] m')
    (htaken : ∀ a ∈ addresses taken.regions, a.1 < r.memory.cells.size →
      r.Reaches (BufferStep.draws ⟨register, shown, .inr w⟩) a) :
    Effect r ⟨register, shown, .inr w⟩ (r.showTaken register taken rest m' keep) := by
  have hmemory : (r.showTaken register taken rest m' keep).2.memory = m' := by
    cases keep with
    | none => exact memory_put _ _ _
    | some target => exact (memory_put _ _ _).trans (memory_put _ _ _)
  have hbrings : (⟨register, shown, .inr w⟩ : BufferStep).brings
      (r.showTaken register taken rest m' keep).1 = keep.toList := by
    cases keep <;> exact hkeeps _
  -- What is kept is stored after what is left, and may take its name.
  have hget : ∀ name, (r.showTaken register taken rest m' keep).2.get? name =
      if name ∈ keep.toList then some taken else if name = register then some rest
        else r.get? name := by
    intro name
    cases keep with
    | none => exact get?_put _ _ _ _
    | some target =>
        refine (get?_put _ _ _ _).trans ?_
        rw [Option.toList_some, get?_put]
        simp only [List.mem_singleton]
        rfl
  constructor
  case others =>
    intro name hnot hname _
    rw [hbrings] at hnot
    rw [hget, if_neg hnot, if_neg (hname w b rfl hb)]
  case drained => exact fun name _ hact => absurd (Sum.inr.inj hact) (hdrain name)
  case strikes =>
    rintro _ c ⟨⟩ hc
    rw [Option.some.inj (hc.symm.trans hb), stroke_working hb, hstroke, hmemory, hbrings]
    refine ⟨rest, ⟨m', hrest ▸ Buffer.Rehoused.beside hbacked hm,
      (Memory.store_nil _ _ _).symm, Nat.zero_le _⟩, fun hnot _ => ?_⟩
    exact (hget register).trans ((if_neg hnot).trans (if_pos rfl))
  case unwritten => exact fun hnone => absurd hb (hnone w b rfl)
  case brought =>
    intro name hname c hc
    rw [hbrings] at hname
    rw [hget, if_pos hname] at hc
    cases hc
    exact htaken
  case stands =>
    intro _ name hnot c hc
    rw [hbrings] at hnot
    rw [hget, if_neg hnot] at hc
    by_cases hname : name = register
    · rw [if_pos hname] at hc
      cases hc
      exact ⟨b, hname ▸ hb, hrest⟩
    · rw [if_neg hname] at hc
      exact ⟨c, hc, rfl⟩
  case alone =>
    rw [hbrings]
    intro _ name hname name' hname'
    rw [Option.mem_toList] at hname hname'
    exact Option.some.inj (hname'.symm.trans hname)

/-- A step that shows several views of a buffer, and may store them. -/
theorem showParts (hb : r.get? register = some b) {parts : List Buffer} {keep : Option String}
    (hkeeps : ∀ list, w.keeps (.snapshots list) =
      (keep.map fun stem => (List.range list.length).map fun i => stem ++ toString i).getD [])
    (hdraws : BufferStep.draws ⟨register, shown, .inr w⟩ = [register])
    (hdrain : ∀ name, w ≠ .drainFrom name) (hstroke : w.stroke r b = {})
    (hparts : ∀ c ∈ parts, ∀ a ∈ addresses c.regions, a ∈ addresses b.regions) :
    Effect r ⟨register, shown, .inr w⟩ (r.showParts parts keep) := by
  cases keep with
  | none =>
      exact nothing (hkeeps _) ((stroke_working hb).trans hstroke)
  | some stem =>
      have hbrings : (⟨register, shown, .inr w⟩ : BufferStep).brings
          (r.showParts parts (some stem)).1 =
            (List.range parts.length).map fun i => stem ++ toString i := by
        refine (hkeeps _).trans ?_
        rw [Option.map_some, Option.getD_some, List.length_map]
      have hmemory : (r.showParts parts (some stem)).2.memory = r.memory :=
        memory_putNumbered r stem parts
      have hget := get?_putNumbered r stem parts
      constructor
      case others =>
        intro name hnot _ _
        rw [hbrings] at hnot
        exact (hget name).2 hnot
      case drained => exact fun name _ hact => absurd (Sum.inr.inj hact) (hdrain name)
      case strikes =>
        rintro _ c ⟨⟩ hc
        rw [Option.some.inj (hc.symm.trans hb), stroke_working hb, hstroke, hmemory, hbrings]
        exact ⟨b, Buffer.strikes_nothing rfl, fun hnot _ => ((hget register).2 hnot).trans hb⟩
      case unwritten => exact fun hnone => absurd hb (hnone w b rfl)
      case brought =>
        intro name hname c hc a ha _
        rw [hbrings] at hname
        rcases (hget name).1 hname with ⟨part, hpart, hstored⟩
        rw [Option.some.inj (hc.symm.trans hstored)] at ha
        rw [hdraws]
        exact ⟨register, List.mem_singleton_self _, b, hb, hparts part hpart a ha⟩
      case stands =>
        intro _ name hnot c hc
        rw [hbrings] at hnot
        exact ⟨c, ((hget name).2 hnot).symm.trans hc, rfl⟩
      case alone =>
        rw [hdraws]
        exact fun hnil => nomatch hnil

/-- A step that moves bytes from one buffer into another. -/
theorem drain (hbacked : b.Backed r.memory) (hb : r.get? register = some b) {source : String}
    {src : Buffer} (hsrc : r.get? source = some src) :
    Effect r ⟨register, shown, .inr (.drainFrom source)⟩
      (.drained (src.drainInto b r.memory).1
          ((src.drainInto b r.memory).2.1.snapshot (src.drainInto b r.memory).2.2.2),
        ({ r with memory := (src.drainInto b r.memory).2.2.2 }.put register
          (src.drainInto b r.memory).2.2.1).put source (src.drainInto b r.memory).2.1) := by
  have hget : ∀ name, ((({ r with memory := (src.drainInto b r.memory).2.2.2 }.put register
      (src.drainInto b r.memory).2.2.1).put source (src.drainInto b r.memory).2.1).get? name) =
        if name = source then some (src.drainInto b r.memory).2.1
        else if name = register then some (src.drainInto b r.memory).2.2.1 else r.get? name := by
    intro name
    rw [get?_put, get?_put]
    rfl
  constructor
  case others =>
    intro name _ hname hdrain
    -- Nobody but the buffer worked on and the one that is drained is stored.
    have hother : name ≠ source := fun h => hdrain src (h ▸ rfl) (h ▸ hsrc)
    exact (hget name).trans ((if_neg hother).trans (if_neg (hname _ b rfl hb)))
  case drained =>
    rintro name c ⟨⟩ hc
    rw [Option.some.inj (hc.symm.trans hsrc)]
    exact ⟨_, (hget source).trans (if_pos rfl)⟩
  case strikes =>
    rintro _ c ⟨⟩ hc
    have hstroke : Working.stroke r b (.drainFrom source) = b.appending (src.content r.memory) := by
      rw [Working.stroke, hsrc]
    rw [Option.some.inj (hc.symm.trans hb), stroke_working hb, hstroke, memory_put, memory_put]
    refine ⟨_, Buffer.strikes_write hbacked (src.content r.memory), fun _ hself => ?_⟩
    have hother : register ≠ source := fun h => hself (h ▸ rfl)
    exact (hget register).trans ((if_neg hother).trans (if_pos rfl))
  case unwritten => exact fun hnone => absurd hb (hnone _ b rfl)
  case brought => exact forall_brought rfl
  case stands => exact fun hsome => absurd rfl hsome
  case alone => exact fun _ => forall_brought rfl

end Effect

/-! ### Making a buffer -/

/-- A buffer that has been made looks at new cells only. -/
def Fresh (m : Memory) (result : Buffer × Memory) : Prop :=
  ∀ a ∈ addresses result.1.regions, m.cells.size ≤ a.1

namespace Fresh

theorem ofBytes (m : Memory) (order : ByteOrder) (bytes : Array UInt8) (writer maxCapacity : Nat) :
    Fresh m (Buffer.ofBytes m order bytes writer maxCapacity) := by
  intro a ha
  change a ∈ addresses [(m.alloc bytes).1] at ha
  rw [addresses_cons, addresses_nil, List.append_nil, mem_places] at ha
  exact Nat.le_of_eq ha.1.symm

theorem empty (m : Memory) (order : ByteOrder) : Fresh m (Buffer.empty.withOrder order, m) :=
  fun _ ha => absurd ha List.not_mem_nil

theorem wrap (m : Memory) (order : ByteOrder) (bytes : Bytes) :
    Fresh m (Buffer.wrap m order bytes) := by
  rw [Buffer.wrap]
  by_cases hnil : bytes.isEmpty = true
  · rw [if_pos hnil]
    exact empty m order
  · rw [if_neg hnil]
    exact ofBytes _ _ _ _ _

theorem copied (m : Memory) (order : ByteOrder) (bytes : Bytes) :
    Fresh m (Buffer.copied m order bytes) := by
  rw [Buffer.copied]
  by_cases hnil : bytes.isEmpty = true
  · rw [if_pos hnil]
    exact empty m order
  · rw [if_neg hnil]
    exact ofBytes _ _ _ _ _

theorem allocAll (m : Memory) (parts : List Bytes) :
    ∀ a ∈ addresses (Buffer.allocAll m parts).1, m.cells.size ≤ a.1 := by
  induction parts generalizing m with
  | nil => exact fun _ ha => absurd ha List.not_mem_nil
  | cons part parts ih =>
      intro a ha
      change a ∈ addresses ((m.alloc part.toArray).1 ::
        (Buffer.allocAll (m.alloc part.toArray).2 parts).1) at ha
      rw [addresses_cons, List.mem_append] at ha
      rcases ha with hfirst | hlater
      · exact Nat.le_of_eq (mem_places.mp hfirst).1.symm
      · have hgrows := (Memory.becomes_alloc [] m part.toArray).grows
        exact Nat.le_trans hgrows (ih _ a hlater)

theorem wrapParts (m : Memory) (order : ByteOrder) (parts : List Bytes) :
    Fresh m (Buffer.wrapParts m order parts) := by
  intro a ha
  change a ∈ addresses ((Buffer.allocAll m (parts.filter (!·.isEmpty))).1.filter _) at ha
  rw [addresses_filter] at ha
  exact allocAll m _ a ha

theorem bufferOf (f : BufferFactory) (m : Memory) (bytes : Bytes) :
    Fresh m (f.bufferOf m bytes) := by
  rcases Made.growable m f.order bytes.length with ⟨hbacked, hbecomes⟩
  rcases hbacked.write bytes with ⟨hstep, -⟩
  intro a ha
  refine Nat.le_of_not_lt fun hcell => ?_
  -- It is filled where it was made, or in a cell that is newer still.
  have hmade := hstep.own a ha (Nat.lt_of_lt_of_le hcell hbecomes.grows)
  exact absurd (ofBytes m f.order _ 0 _ a hmade) (Nat.not_le_of_lt hcell)

theorem reaches {result : Buffer × Memory} (h : Fresh r.memory result) (names : List String) :
    ∀ a ∈ addresses result.1.regions, a.1 < r.memory.cells.size → r.Reaches names a :=
  fun a ha hcell => absurd (h a ha) (Nat.not_le_of_lt hcell)

end Fresh

/-- A stretch of a buffer lies where the buffer lies. -/
theorem mem_addresses_clip {rs : List Region} {index length : Nat} {a : Location}
    (ha : a ∈ addresses (clip rs index length)) : a ∈ addresses rs := by
  rw [addresses_clip] at ha
  exact List.mem_of_mem_drop (List.mem_of_mem_take ha)

theorem mem_addresses_ofRegions {order : ByteOrder} {rs : List Region} {a : Location}
    (ha : a ∈ addresses (Buffer.ofRegions order rs).regions) : a ∈ addresses rs := by
  change a ∈ addresses (rs.filter fun r => 0 < r.length) at ha
  rwa [addresses_filter] at ha

/-- A view of a buffer lies where the buffer lies. -/
theorem reaches_view {source : String} {c : Buffer} (hc : r.get? source = some c) {view : Buffer}
    (hview : ∀ a ∈ addresses view.regions, a ∈ addresses c.regions) :
    ∀ a ∈ addresses view.regions, a.1 < r.memory.cells.size → r.Reaches [source] a :=
  fun a ha _ => ⟨source, List.mem_singleton_self _, c, hc, hview a ha⟩

/-- A buffer that is made looks at what it is a view of, or at new cells. -/
theorem make_draws (r : Registers) (making : Making) :
    Yields (fun result => ∀ a ∈ addresses result.1.regions, a.1 < r.memory.cells.size →
      r.Reaches making.draws a) (r.make making) := by
  cases making with
  | growable order capacity => exact Yields.ok ((Fresh.ofBytes _ _ _ _ _).reaches _)
  | fixed order capacity => exact Yields.ok ((Fresh.ofBytes _ _ _ _ _).reaches _)
  | empty => exact Yields.ok ((Fresh.empty _ .big).reaches _)
  | wrap order bytes => exact Yields.ok ((Fresh.wrap _ _ _).reaches _)
  | copied order bytes => exact Yields.ok ((Fresh.copied _ _ _).reaches _)
  | wrapParts order parts => exact Yields.ok ((Fresh.wrapParts _ _ _).reaches _)
  | copyParts order parts =>
      exact Yields.bind (P := fun _ => True) (fun _ _ => trivial) fun _ _ =>
        Yields.ok ((Fresh.copied _ _ _).reaches _)
  | wrapOf source | readableSlice source =>
      exact (r.find_yields source).bind fun c hc => Yields.ok (reaches_view hc fun _ ha =>
        mem_addresses_clip (mem_addresses_ofRegions ha))
  | copyOf source =>
      exact (r.find_yields source).bind fun c _ => Yields.ok ((Fresh.copied _ _ _).reaches _)
  | wrapAll sources =>
      -- A name is kept with each buffer, since a view has to say of whom it is one.
      have hfound : Yields (fun bs : List Buffer => ∀ c ∈ bs, ∃ name ∈ sources,
          r.get? name = some c) (sources.mapM r.find) :=
        Yields.mapM fun name hname => fun c hc => ⟨name, hname, r.find_yields name c hc⟩
      refine hfound.bind fun bs hbs => ?_
      refine Yields.bind (P := fun view : Buffer => ∀ a ∈ addresses view.regions,
        r.Reaches sources a) ?_ fun view hview => Yields.ok fun a ha _ => hview a ha
      refine Yields.bind (P := fun _ => True) (fun _ _ => trivial) fun order _ =>
        Yields.ok fun a ha => ?_
      -- Each piece is a stretch of one of the sources.
      rcases mem_addresses.mp (mem_addresses_ofRegions ha) with ⟨piece, hpiece, hplace⟩
      rcases List.mem_flatMap.mp hpiece with ⟨c, hc, hclip⟩
      rcases hbs c hc with ⟨name, hname, hget⟩
      exact ⟨name, hname, c, hget, mem_addresses_clip (mem_addresses.mpr ⟨piece, hclip, hplace⟩)⟩
  | copyAll sources =>
      exact Yields.bind (P := fun _ => True) (fun _ _ => trivial) fun bs _ =>
        Yields.bind (P := fun _ => True) (fun _ _ => trivial) fun _ _ =>
          Yields.bind (P := fun _ => True) (fun _ _ => trivial) fun _ _ =>
            Yields.ok ((Fresh.copied _ _ _).reaches _)
  | text order text => exact Yields.ok ((Fresh.copied _ _ _).reaches _)
  | factory f order capacity =>
      cases order <;> exact Yields.ok ((Fresh.ofBytes _ _ _ _ _).reaches _)
  | factoryOf f bytes => exact Yields.ok ((Fresh.bufferOf _ _ _).reaches _)
  | duplicate source | withOrder source _ =>
      exact (r.find_yields source).bind fun c hc => Yields.ok (reaches_view hc fun _ ha => ha)
  | slice source index length =>
      refine (r.find_yields source).bind fun c hc => ?_
      refine Yields.bind (P := fun view : Buffer => ∀ a ∈ addresses view.regions,
        a ∈ addresses c.regions) ?_ fun view hview => Yields.ok (reaches_view hc hview)
      exact (c.checkWindow_yields index length).bind fun _ _ => Yields.ok fun _ ha =>
        mem_addresses_clip (mem_addresses_ofRegions ha)
  | copy source index length =>
      exact (r.find_yields source).bind fun c _ => (c.checkWindow_yields index length).bind
        fun _ _ => Yields.ok ((Fresh.ofBytes _ _ _ _ _).reaches _)

/-! ### Working on a buffer -/

/-- A call that gives a value unless something is wrong. -/
theorem yields_unless {p : Prop} [Decidable p] {α : Type} {P : α → Prop} {a : α} (h : P a)
    (cause : Error) : Yields P (if p then .error cause else .ok a) := by
  by_cases hp : p
  · rw [if_pos hp]
    exact Yields.error
  · rw [if_neg hp]
    exact Yields.ok h

theorem setReader_regions (b : Buffer) (index : Nat) :
    Yields (fun c : Buffer => c.regions = b.regions) (b.setReader index) := by
  rw [Buffer.setReader]
  refine yields_unless ?_ _
  rfl

theorem setWriter_regions (b : Buffer) (index : Nat) :
    Yields (fun c : Buffer => c.regions = b.regions) (b.setWriter index) := by
  rw [Buffer.setWriter]
  refine yields_unless ?_ _
  rfl

theorem setCursors_regions (b : Buffer) (reader writer : Nat) :
    Yields (fun c : Buffer => c.regions = b.regions) (b.setCursors reader writer) := by
  rw [Buffer.setCursors]
  refine yields_unless ?_ _
  rfl

theorem skip_regions (b : Buffer) (length : Nat) :
    Yields (fun c : Buffer => c.regions = b.regions) (b.skip length) :=
  (b.checkReadable_yields length).bind fun _ _ => Yields.ok rfl

/-- A copy of the next bytes lies elsewhere, and the buffer lies where it lay. -/
theorem readBytes_fresh (b : Buffer) (m : Memory) (length : Nat) :
    Yields (fun result : Buffer × Buffer × Memory => result.2.1.regions = b.regions ∧
        m.Becomes [] result.2.2 ∧ Fresh m (result.1, result.2.2))
      (b.readBytes m length) := by
  refine (b.checkReadable_yields length).bind fun _ _ => ?_
  refine Yields.bind (P := fun result => m.Becomes [] result.2 ∧ Fresh m result) ?_
    fun result h => Yields.ok ⟨rfl, h⟩
  exact (b.checkWindow_yields b.reader length).bind fun _ _ =>
    Yields.ok ⟨Memory.becomes_alloc _ _ _, Fresh.ofBytes _ _ _ _ _⟩

/-- A view of the next bytes lies where the buffer lies, and the buffer where it lay. -/
theorem readSlice_within (b : Buffer) (length : Nat) :
    Yields (fun result : Buffer × Buffer => result.2.regions = b.regions ∧
        ∀ a ∈ addresses result.1.regions, a ∈ addresses b.regions)
      (b.readSlice length) := by
  refine (b.checkReadable_yields length).bind fun _ _ => ?_
  refine Yields.bind (P := fun view : Buffer => ∀ a ∈ addresses view.regions,
    a ∈ addresses b.regions) ?_ fun view h => Yields.ok ⟨rfl, h⟩
  exact (b.checkWindow_yields b.reader length).bind fun _ _ => Yields.ok fun _ ha =>
    mem_addresses_clip (mem_addresses_ofRegions ha)

/-- The flat views of a buffer lie where the buffer lies. -/
theorem mem_addresses_part {index length : Nat} {c : Buffer}
    (hc : c ∈ (clip b.regions index length).map fun r => Buffer.ofRegions b.order [r])
    {a : Location} (ha : a ∈ addresses c.regions) : a ∈ addresses b.regions := by
  rcases List.mem_map.mp hc with ⟨piece, hpiece, rfl⟩
  have hplace := mem_addresses_ofRegions ha
  rw [addresses_cons, addresses_nil, List.append_nil] at hplace
  exact mem_addresses_clip (mem_addresses.mpr ⟨piece, hpiece, hplace⟩)

theorem tryReadWord_regions (b : Buffer) (m : Memory) (width : Nat) :
    Yields (fun result : Word width × Buffer => result.2.regions = b.regions)
      (b.tryReadWord m width) :=
  (b.checkReadable_yields width).bind fun _ _ =>
    (Buffer.Backed.getWord b m width b.reader).bind fun _ _ => Yields.ok rfl

theorem useWord_strikes (hbacked : b.Backed r.memory) (numeral : Numeral) (use : WordUse) :
    Yields (fun result : BufferReply × Buffer × Memory =>
        b.Strikes r.memory result.2.1 result.2.2 (use.stroke b numeral))
      (useWord b r.memory numeral use) := by
  cases use with
  | get index =>
      exact Yields.bind (P := fun _ => True) (fun _ _ => trivial) fun _ _ =>
        Yields.ok (Buffer.strikes_nothing rfl)
  | set index value =>
      exact (b.strikes_setBytes r.memory index _).bind fun m' h => Yields.ok h
  | read =>
      have hread : (b.readWord r.memory numeral.width).2.regions = b.regions := by
        rw [Buffer.readWord]
        cases hword : b.tryReadWord r.memory numeral.width with
        | error cause => rfl
        | ok result => exact tryReadWord_regions b r.memory numeral.width result hword
      exact Yields.ok (Buffer.strikes_nothing hread)
  | tryRead =>
      exact (tryReadWord_regions b r.memory numeral.width).bind fun result h =>
        Yields.ok (Buffer.strikes_nothing h)
  | write value => exact Yields.ok (Buffer.strikes_write hbacked _)
  | writeAhead value =>
      exact (Buffer.strikes_writeAhead hbacked _).bind fun result h => Yields.ok h

/-- What is done to all buffers by working on one. -/
theorem work_effect (hr : r.Sound) (hb : r.get? register = some b) (w : Working) :
    Yields (Effect r ⟨register, shown, .inr w⟩) (r.work register b w) := by
  have hbacked := hr register b hb
  -- Most operations move cursors only, and a few only look.
  have hmoved : ∀ {c : Buffer} {w : Working} {reply : BufferReply}, c.regions = b.regions →
      w.keeps reply = [] → (∀ name, w ≠ .drainFrom name) → w.stroke r b = {} →
      Effect r ⟨register, shown, .inr w⟩ (r.after register reply c r.memory) :=
    fun hregions hkeeps hdrain hstroke =>
      Effect.after hb hkeeps hdrain (hstroke ▸ Buffer.strikes_nothing hregions)
  have hlooked : ∀ {w : Working} {reply : BufferReply}, w.keeps reply = [] →
      w.stroke r b = {} → Effect r ⟨register, shown, .inr w⟩ (reply, r) :=
    fun hkeeps hstroke => Effect.nothing hkeeps ((stroke_working hb).trans hstroke)
  cases w with
  | readBytes length keep =>
      refine Yields.bind (readBytes_fresh b r.memory length) fun result h => Yields.ok ?_
      exact Effect.showTaken hbacked hb (by cases keep <;> exact fun _ => rfl) nofun
        rfl h.1 h.2.1 (h.2.2.reaches _)
  | readSlice length keep =>
      refine Yields.bind (readSlice_within b length) fun result h => Yields.ok ?_
      exact Effect.showTaken hbacked hb (by cases keep <;> exact fun _ => rfl) nofun
        rfl h.1 (Memory.Becomes.refl _ _) (reaches_view hb h.2)
  | decompose index length keep =>
      refine Yields.bind (P := fun parts : List Buffer => ∀ c ∈ parts, ∀ a ∈ addresses c.regions,
        a ∈ addresses b.regions) ?_ fun parts h => Yields.ok ?_
      · exact (b.checkWindow_yields index length).bind fun _ _ =>
          Yields.ok fun _ hc _ ha => mem_addresses_part hc ha
      · exact Effect.showParts hb (by cases keep <;> exact fun _ => rfl) rfl nofun
          rfl h
  | components keep =>
      exact Yields.ok (Effect.showParts hb (by cases keep <;> exact fun _ => rfl) rfl
        nofun rfl fun _ hc _ ha => mem_addresses_part hc ha)
  | drainFrom source =>
      exact (r.find_yields source).bind fun src hsrc => Yields.ok (Effect.drain hbacked hb hsrc)
  | word numeral use =>
      exact (useWord_strikes hbacked numeral use).bind fun result h =>
        Yields.ok (Effect.after hb rfl nofun h)
  | setReader index =>
      exact (setReader_regions b index).bind fun c h => Yields.ok (hmoved h rfl nofun rfl)
  | setWriter index =>
      exact (setWriter_regions b index).bind fun c h => Yields.ok (hmoved h rfl nofun rfl)
  | setCursors reader writer =>
      exact (setCursors_regions b reader writer).bind fun c h =>
        Yields.ok (hmoved h rfl nofun rfl)
  | resetReader =>
      exact (setReader_regions b _).bind fun c h => Yields.ok (hmoved h rfl nofun rfl)
  | resetWriter =>
      exact (setWriter_regions b _).bind fun c h => Yields.ok (hmoved h rfl nofun rfl)
  | clear | markReader | markWriter => exact Yields.ok (hmoved rfl rfl nofun rfl)
  | skip length =>
      exact (skip_regions b length).bind fun c h => Yields.ok (hmoved h rfl nofun rfl)
  | readInto length =>
      refine Yields.bind (P := fun result : Bytes × Buffer => result.2.regions = b.regions) ?_
        fun result h => Yields.ok (hmoved h rfl nofun rfl)
      exact (b.checkReadable_yields length).bind fun _ _ => Yields.ok rfl
  | discardReadBytes =>
      exact Yields.ok (Effect.after hb rfl nofun (Buffer.strikes_discardReadBytes hbacked))
  | ensureWritableBytes length =>
      exact (Buffer.strikes_ensureWritableBytes hbacked length).bind fun result h =>
        Yields.ok (Effect.after hb rfl nofun h)
  | ensureWritable length force =>
      exact Yields.ok (Effect.after hb rfl nofun
        (Buffer.strikes_ensureWritable hbacked length force))
  | setBytes index bytes =>
      exact (b.strikes_setBytes r.memory index bytes).bind fun m' h =>
        Yields.ok (Effect.after hb rfl nofun h)
  | setZero index length =>
      exact Yields.ok (Effect.after hb rfl nofun (b.strikes_setZero r.memory index length))
  | write bytes =>
      exact Yields.ok (Effect.after hb rfl nofun (Buffer.strikes_write hbacked bytes))
  | writeZero length =>
      exact Yields.ok (Effect.after hb rfl nofun (Buffer.strikes_writeZero hbacked length))
  | writeAhead bytes =>
      exact (Buffer.strikes_writeAhead hbacked bytes).bind fun result h =>
        Yields.ok (Effect.after hb rfl nofun h)
  | writeZeroAhead length =>
      exact Yields.ok (Effect.after hb rfl nofun (Buffer.strikes_writeZeroAhead hbacked length))
  | compare other =>
      exact (r.find_yields other).bind fun _ _ => Yields.ok (hlooked rfl rfl)
  | getBytes index length =>
      exact (Buffer.Backed.getBytes b r.memory index length).bind fun _ _ =>
        Yields.ok (hlooked rfl rfl)
  | hexDumpOf index length =>
      exact (Buffer.Backed.hexDumpOf b r.memory index length).bind fun _ _ =>
        Yields.ok (hlooked rfl rfl)
  | _ => exact Yields.ok (hlooked rfl rfl)

/-! ### Steps -/

theorem setting_of_error {m : Memory} {index : Nat} {src : Bytes} {cause : Error}
    (h : b.setBytes m index src = .error cause) : b.setting index src = {} := by
  rw [Buffer.setting]
  by_cases hin : index + src.length ≤ b.capacity
  · rw [Buffer.setBytes, Buffer.checkWindow_ok hin] at h
    cases h
  · rw [if_neg hin]

theorem prepending_of_error {m : Memory} {src : Bytes} {cause : Error}
    (h : b.writeAhead m src = .error cause) : b.prepending src = {} := by
  rw [Buffer.prepending]
  by_cases hin : src.length ≤ b.reader
  · rw [Buffer.writeAhead, if_neg (Nat.not_lt_of_le hin)] at h
    cases h
  · rw [if_neg hin]

theorem useWord_stroke_of_error {m : Memory} {numeral : Numeral} {use : WordUse} {cause : Error}
    (h : useWord b m numeral use = .error cause) : use.stroke b numeral = {} := by
  cases use with
  | get _ | read | tryRead => rfl
  | write value => cases h
  | set index value =>
      cases hset : b.setBytes m index (Word.encode b.order (bitsOf numeral value)) with
      | error cause => exact setting_of_error hset
      | ok m' =>
          rw [useWord, Buffer.setWord, hset] at h
          cases h
  | writeAhead value =>
      cases hahead : b.writeAhead m (Word.encode b.order (bitsOf numeral value)) with
      | error cause => exact prepending_of_error hahead
      | ok result =>
          rw [useWord, Buffer.writeWordAhead, hahead] at h
          cases h

/-- What is refused writes nothing. -/
theorem stroke_of_error {cause : Error} (h : r.work register b w = .error cause) :
    w.stroke r b = {} := by
  cases w with
  | discardReadBytes | setZero _ _ | write _ | writeZero _ | writeZeroAhead _ => cases h
  | word numeral use =>
      -- A number that cannot be written is not written in part.
      cases huse : useWord b r.memory numeral use with
      | error cause => exact useWord_stroke_of_error huse
      | ok result =>
          rw [work, huse] at h
          cases h
  | setBytes index bytes =>
      cases hset : b.setBytes r.memory index bytes with
      | error cause => exact setting_of_error hset
      | ok m' =>
          rw [work, hset] at h
          cases h
  | writeAhead bytes =>
      cases hahead : b.writeAhead r.memory bytes with
      | error cause => exact prepending_of_error hahead
      | ok result =>
          rw [work, hahead] at h
          cases h
  | drainFrom source =>
      cases hsrc : r.get? source with
      | none => rw [Working.stroke, hsrc]
      | some src =>
          rw [work, find, hsrc] at h
          cases h
  | _ => rfl

/-- What making a buffer does to the others. -/
theorem make_effect (hr : r.Sound) {making : Making} {result : Buffer × Memory}
    (hmade : r.make making = .ok result) :
    Effect r ⟨register, shown, .inl making⟩ (r.after register .done result.1 result.2) where
  others := by
    intro name hnot _ _
    have hname : name ≠ register := fun h => hnot (List.mem_singleton.mpr h)
    exact (get?_put _ _ _ _).trans (if_neg hname)
  drained := nofun
  strikes := nofun
  unwritten := by
    intro _
    rw [Registers.after, memory_put]
    exact (make_made hr making result hmade).2
  brought := by
    intro name hname c hc
    have hstored : some result.1 = some c :=
      ((get?_put _ _ _ _).trans (if_pos (List.mem_singleton.mp hname))).symm.trans hc
    rw [← Option.some.inj hstored]
    exact make_draws r making result hmade
  stands := by
    intro _ name hnot c hc
    have hname : name ≠ register := fun h => hnot (List.mem_singleton.mpr h)
    have hsame : (r.after register .done result.1 result.2).2.get? name = r.get? name :=
      (get?_put _ _ _ _).trans (if_neg hname)
    exact ⟨c, hsame.symm.trans hc, rfl⟩
  alone := by
    intro _ name hname name' hname'
    exact (List.mem_singleton.mp hname').trans (List.mem_singleton.mp hname).symm

/-- What is refused makes nothing. -/
theorem keeps_failed (w : Working) (cause : Error) : w.keeps (.failed cause) = [] := by
  cases w with
  | readBytes _ keep | readSlice _ keep | decompose _ _ keep | components keep =>
      cases keep <;> rfl
  | _ => rfl

/-- What a step does to all buffers. -/
theorem step_effect (hr : r.Sound) (s : BufferStep) : Effect r s (r.step s) := by
  rcases s with ⟨register, shown, making | w⟩
  · cases hmade : r.make making with
    | error cause =>
        have hstep : r.step ⟨register, shown, .inl making⟩ = (.failed cause, r) := by
          rw [step_making hr, hmade]
        rw [hstep]
        exact Effect.nothing rfl rfl
    | ok result =>
        have hstep : r.step ⟨register, shown, .inl making⟩ =
            r.after register .done result.1 result.2 := by
          rw [step_making hr, hmade]
        rw [hstep]
        exact make_effect hr hmade
  · cases hb : r.get? register with
    | none =>
        rw [step_missing hr hb]
        exact Effect.nothing (keeps_failed w _) (by rw [stroke, hb])
    | some b =>
        rw [step_working hr hb]
        cases hwork : r.work register b w with
        | error cause =>
            exact Effect.nothing (keeps_failed w cause)
              ((stroke_working hb).trans (stroke_of_error hwork))
        | ok result => exact work_effect hr hb w result hwork

end Registers

end Conduit
