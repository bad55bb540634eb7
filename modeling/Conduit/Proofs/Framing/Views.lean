import Conduit.Proofs.Buffer.Compaction
import Conduit.Proofs.Framing.Rounds

/-!
# Views Among What Is Found

A decoder that cuts views out of the bytes hands out pieces of a buffer that others go on
working with. The calls that follow may write to them, and so may the codec: a round that
comes to its end moves the bytes that are left to the front, which is where the bytes that
were used first lie, and only then are the messages handed on.

The first is the decoder's own affair, so it is taken as a premise that it writes nothing.
Of the second it can be said exactly what a view shows afterwards. A byte of it stays unless
one of the bytes that are left has gone to its place, and then that one is seen. So all
views stay as they are after a round that has failed, for nothing is moved then, and after
one that has left nothing.

## Main definitions

* `Trial.returned?`: What a call has made, as it was when the decoder returned it.
* `Decoder.Quiet`: A decoder that writes to no byte that is there.
* `Decoding.Shows`: What a view shows when it is handed on.
* `Decoder.Delivers`: What is handed on of all that a round has found.
* `Decoder.pairViews`: A decoder that cuts views.

## Theorems

* `left_of_not_done`, `memory_left_of_done`, `memory_left_of_still`: What is left after a
  round.
* `Decoding.shows`: What a view shows when it is handed on.
* `Rounds.quiet`: A decoder that writes nothing leaves what it has returned as it is.
* `Comes.delivers`: What is handed on of all that a round has found.
* `pairViews_bytes`, `pairViews_forward`, `pairViews_quiet`: Cutting views goes forward and
  writes nothing.
-/

namespace Conduit

variable {δ : Type}

/-- The bytes of a message that is a buffer. -/
def Message.content? : Message → Option Bytes
  | .buffer s => some s.content
  | _ => none

/-- What a call has made, as it was when the decoder returned it. -/
def Trial.returned? (a : Trial δ) : Option Message :=
  a.made?.map (·.message a.step.bytes.memory)

/-- A decoder that writes to no byte that is there. -/
def Decoder.Quiet (d : Decoder δ) : Prop :=
  ∀ atEnd state (s : Sealed), s.memory.Becomes [] (d.attempt atEnd state s).bytes.memory

/-- What a view shows when it is handed on after a round. -/
structure Decoding.Shows (r : Decoding δ) (v : Buffer) : Prop where
  /-- A round that fails moves nothing, -/
  failed : r.ending ≠ .done → v.content r.left.memory = v.content r.bytes.memory
  /-- and neither does one that leaves nothing, -/
  drained : r.bytes.isReadable = false → v.content r.left.memory = v.content r.bytes.memory
  /-- or that has used nothing. -/
  unused : r.bytes.buffer.reader = 0 → v.content r.left.memory = v.content r.bytes.memory
  /-- A byte stays that does not lie where the bytes that are left go. -/
  beside : ∀ i, (∀ k < r.bytes.readableBytes, r.bytes.buffer.place? k ≠ v.place? i) →
    r.left.memory.byteAt v.regions i = r.bytes.memory.byteAt v.regions i
  /-- Where several of them go, the last one is seen. -/
  moved : r.ending = .done → ∀ i k, k < r.bytes.readableBytes →
    r.bytes.buffer.place? k = v.place? i →
    (∀ k', k < k' → k' < r.bytes.readableBytes → r.bytes.buffer.place? k' ≠ v.place? i) →
    r.left.memory.byteAt v.regions i = r.bytes.content[k]?

/-- What is handed on of all that some calls of a decoder have found. -/
structure Decoder.Delivers (d : Decoder δ) (trials : List (Trial δ)) (r : Decoding δ) : Prop where
  /-- The objects that were returned, in order. A message of its own stays what it is, and a
      view shows what stands in memory now. -/
  messages : r.messages = (trials.filterMap Trial.made?).map (·.message r.left.memory)
  shows : r.bytes.buffer.Backed r.bytes.memory → ∀ v : Buffer, r.Shows v
  /-- What a decoder that writes nothing has returned is still the same after the last call. -/
  stays : d.Quiet → ∀ a ∈ trials, ∀ v : Buffer, v.Backed a.step.bytes.memory →
    v.Backed r.bytes.memory ∧ v.content r.bytes.memory = v.content a.step.bytes.memory

variable {r : Decoding δ} {v : Buffer} {d : Decoder δ} {atEnd : Bool} {state state' : δ}
  {s s' : Sealed} {ending : Ending} {trials : List (Trial δ)}

namespace Decoding

theorem left_of_not_done (h : r.ending ≠ .done) : r.left = r.bytes := by
  rw [left]
  cases hending : r.ending with
  | done => exact absurd hending h
  | failed _ | panicked _ => rfl

theorem memory_left_of_done (h : r.ending = .done) :
    r.left.memory = (r.bytes.buffer.discardReadBytes r.bytes.memory).2 := by
  rw [left, h]
  rfl

/-- Unless bytes are left behind others that were used, nothing is moved. -/
theorem memory_left_of_still
    (h : r.ending ≠ .done ∨ r.bytes.isReadable = false ∨ r.bytes.buffer.reader = 0)
    (hb : r.bytes.buffer.Backed r.bytes.memory) : r.left.memory = r.bytes.memory := by
  by_cases hdone : r.ending = .done
  · rw [memory_left_of_done hdone, Buffer.discardReadBytes]
    rcases h with hnot | hnone | hzero
    · exact absurd hdone hnot
    · have hcontent : r.bytes.buffer.content r.bytes.memory = [] := by
        have hcount : ¬ 0 < r.bytes.buffer.readableBytes := of_decide_eq_false hnone
        rw [← List.length_eq_zero_iff, hb.length_content]
        omega
      rw [hcontent, Memory.store_nil]
      split <;> rfl
    · rw [if_pos hzero]
  · rw [left_of_not_done hdone]

/-- What a view shows when it is handed on. -/
theorem shows (hb : r.bytes.buffer.Backed r.bytes.memory) (v : Buffer) : r.Shows v := by
  have hstill := fun h => congrArg v.content (memory_left_of_still (r := r) h hb)
  refine ⟨fun h => hstill (Or.inl h), fun h => hstill (Or.inr (Or.inl h)),
    fun h => hstill (Or.inr (Or.inr h)), fun i hbeside => ?_, fun hdone i k hk hplace hlast => ?_⟩
  · by_cases hdone : r.ending = .done
    · rw [memory_left_of_done hdone, Buffer.discardReadBytes]
      by_cases hzero : r.bytes.buffer.reader = 0
      · rw [if_pos hzero]
      · rw [if_neg hzero]
        refine Memory.byteAt_store_untouched fun k _ hk => hbeside k ?_
        rwa [hb.length_content, Nat.zero_add] at hk
    · rw [left_of_not_done hdone]
  · -- The byte lies where an index of the buffer lies, and that index shows what was moved there.
    have hfront := hb.byteAt_front hk hk rfl fun k' hlow hhigh hsame =>
      hlast k' hlow hhigh (hsame.trans hplace)
    rw [memory_left_of_done hdone, Memory.byteAt_eq]
    rw [Memory.byteAt_eq] at hfront
    change _ = (r.bytes.buffer.content r.bytes.memory)[k]?
    rw [← hfront]
    exact congrArg (fun place : Option Location => place.bind _) hplace.symm

end Decoding

namespace Decoder

/-- A decoder that writes nothing leaves what it has returned as it is. -/
theorem Rounds.quiet (h : d.Rounds atEnd state s trials ending state' s') (hd : d.Quiet) :
    s.memory.Becomes [] s'.memory ∧ ∀ a ∈ trials, a.step.bytes.memory.Becomes [] s'.memory := by
  induction h with
  | drained _ => exact ⟨Memory.Becomes.refl _ _, fun a ha => nomatch ha⟩
  | ended _ _ =>
      refine ⟨hd _ _ _, fun a ha => ?_⟩
      rw [List.mem_singleton.mp ha]
      exact Memory.Becomes.refl _ _
  -- What a call has left, the calls after it leave as it is, and so does the whole round.
  | goesOn _ _ _ ih =>
      refine ⟨(hd _ _ _).trans ih.1 fun a ha _ => ha, fun a ha => ?_⟩
      rcases List.mem_cons.mp ha with rfl | ha
      · exact ih.1
      · exact ih.2 a ha

/-- What is handed on of all that a round has found. -/
theorem Comes.delivers (h : d.Comes atEnd state s trials r) : d.Delivers trials r where
  messages := by rw [Decoding.messages, h.found]
  shows := Decoding.shows
  stays := by
    intro hd a ha v hv
    have hsame := (h.rounds.quiet hd).2 a ha
    exact ⟨hv.becomes hsame, hv.content_becomes hsame fun x hx => absurd hx List.not_mem_nil⟩

/-! ### A decoder of views -/

/-- Cuts the bytes into views of two each. -/
def pairViews : Decoder Unit where
  typeName := "PairViews"
  attempt _ _ bytes :=
    match bytes.buffer.readSlice 2 with
    | .ok (view, rest) =>
      { finding := .message (.view view), state := (), bytes := { bytes with buffer := rest } }
    | .error _ => { finding := .nothing, state := (), bytes }

/-- A call uses two bytes, or nothing. -/
theorem pairViews_bytes (atEnd : Bool) (state : Unit) (s : Sealed) :
    (pairViews.attempt atEnd state s).bytes = s ∨ 2 ≤ s.buffer.readableBytes ∧
      (pairViews.attempt atEnd state s).bytes =
        { s with buffer := { s.buffer with reader := s.buffer.reader + 2 } } := by
  have hslice : Yields (fun result : Buffer × Buffer => 2 ≤ s.buffer.readableBytes ∧
      result.2 = { s.buffer with reader := s.buffer.reader + 2 }) (s.buffer.readSlice 2) :=
    (s.buffer.checkReadable_yields 2).bind fun _ hreadable =>
      Yields.bind (P := fun _ => True) (fun _ _ => trivial) fun _ _ => Yields.ok ⟨hreadable, rfl⟩
  unfold pairViews
  dsimp only
  cases hread : s.buffer.readSlice 2 with
  | error cause => exact Or.inl rfl
  | ok result =>
      rcases hslice result hread with ⟨hreadable, hrest⟩
      exact Or.inr ⟨hreadable, congrArg (fun b => { s with buffer := b }) hrest⟩

theorem pairViews_forward : pairViews.Forward where
  reader := by
    intro atEnd state s _
    rcases pairViews_bytes atEnd state s with h | ⟨-, h⟩
    · rw [h]
    · rw [h]
      exact Nat.le_add_right _ _
  writer := by
    intro atEnd state s _
    rcases pairViews_bytes atEnd state s with h | ⟨-, h⟩
    · rw [h]
    · rw [h]
  valid := by
    intro atEnd state s hs
    rcases pairViews_bytes atEnd state s with h | ⟨hreadable, h⟩
    · rw [h]
      exact hs
    · rw [h]
      have hreader := hs.reader_le_writer
      rw [Buffer.readableBytes] at hreadable
      exact ⟨by dsimp only; omega, hs.writer_le_capacity, hs.capacity_le_max⟩

/-- It writes to nothing. -/
theorem pairViews_quiet : pairViews.Quiet := by
  intro atEnd state s
  rcases pairViews_bytes atEnd state s with h | ⟨-, h⟩
  · rw [h]
  · rw [h]

end Decoder

end Conduit
