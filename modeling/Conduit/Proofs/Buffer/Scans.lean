import Conduit.Buffer.Scan
import Conduit.Proofs.Buffer.Stroke

/-!
# What a Scan Asks, and What It Finds

A scan is told two bounds and goes through the indices between them, upwards or
downwards, asking about one byte after the other until the answer is yes. The
question may remember what it was asked and answer differently the second time, so
to say what a scan finds is to say what it asks on the way: all bytes before the one
that is found, that one, and none after it.

Of the two bounds the upper one is clamped to the capacity, and the lower one is not.
Where both lie past the capacity nothing is left between them, so no index is visited
that has no byte. That needs the buffer to be backed, and nothing of how its regions
lie to each other.

The two directions are one search along a list of indices. What it comes to is said of
the bytes at those indices, and then it no longer matters where they came from: the
readable bytes are searched in the same way.

## Main definitions

* `Buffer.scanOrder`: The indices that a scan visits as long as it finds nothing.
* `Buffer.bytesAt`: The bytes at some indices.
* `Buffer.findAlong`: A search along a list of indices.
* `answers`: What a question answers about several bytes, one after the other.
* `Search`: What comes of asking until the answer is yes.
* `Buffer.Scans`: What can be said of every scan of a buffer.

## Theorems

* `answers_cons`, `answers_remembering`: What a question is asked and answers, in order.
* `search_nil`, `search_yes`, `search_no`: A search goes on until the answer is yes.
* `Search.seen`: A search with a question that remembers all it was asked.
* `findUp_eq`, `findDown_eq`: The two directions are searches along indices.
* `indexOfBy_eq`: A scan in either direction is a search along the indices it visits.
* `lt_of_mem_scanOrder`, `scanOrder_readable`: Which indices a scan visits.
* `bytesAt_cons`, `bytesAt_range'`: The bytes at some indices.
* `Backed.exists_byte`: There is a byte at each index below the capacity.
* `Backed.findAlong_search`: Such a search asks about the bytes at the indices.
* `Backed.bytesBeforeBy_search`: A search through the readable bytes tells a distance.
* `Backed.scans`: Every scan of a backed buffer.
-/

namespace Conduit

open Buffer (Question)

variable {σ : Type}

/-- What a question answers about several bytes, one after the other, and its state then. -/
def answers (ask : Question σ) : Bytes → σ → List Bool × σ
  | [], s => ([], s)
  | byte :: bytes, s =>
    let (yes, s) := ask byte s
    let (rest, s) := answers ask bytes s
    (yes :: rest, s)

/-- What comes of asking about bytes in order until the answer is yes: the place of that byte
    among them if there is one, and the state of the question, which has been asked about the
    bytes up to there and about no others. -/
inductive Search (ask : Question σ) (s : σ) (bytes : Bytes) : Option Nat → σ → Prop
  | hit {d : Nat} {s' : σ} (hd : d < bytes.length)
      (hanswers : answers ask (bytes.take (d + 1)) s = (List.replicate d false ++ [true], s')) :
      Search ask s bytes (some d) s'
  | miss {s' : σ}
      (hanswers : answers ask bytes s = (List.replicate bytes.length false, s')) :
      Search ask s bytes none s'

/-! ### Asking -/

section Asking

variable {ask : Question σ} {s s' : σ} {byte : UInt8} {bytes : Bytes}

theorem answers_cons (ask : Question σ) (byte : UInt8) (bytes : Bytes) (s : σ) :
    answers ask (byte :: bytes) s =
      ((ask byte s).1 :: (answers ask bytes (ask byte s).2).1,
        (answers ask bytes (ask byte s).2).2) := rfl

/-- A question that remembers what it was asked was asked about all the bytes. -/
theorem answers_remembering (answer : Bytes → Bool) (bytes seen : Bytes) :
    (answers (fun byte seen => (answer (byte :: seen), byte :: seen)) bytes seen).2 =
      bytes.reverse ++ seen := by
  induction bytes generalizing seen with
  | nil => rfl
  | cons byte bytes ih => simp [answers_cons, ih]

theorem search_nil : Search ask s [] none s := Search.miss rfl

/-- If the answer is yes, nothing more is asked. -/
theorem search_yes (hyes : ask byte s = (true, s')) (bytes : Bytes) :
    Search ask s (byte :: bytes) (some 0) s' := by
  refine Search.hit (Nat.succ_pos _) ?_
  simp [answers, hyes]

/-- If the answer is no, the search goes on with the next byte. -/
theorem search_no (hno : ask byte s = (false, s')) {d : Option Nat} {s'' : σ}
    (hrest : Search ask s' bytes d s'') : Search ask s (byte :: bytes) (d.map (· + 1)) s'' := by
  cases hrest with
  | @hit d _ hd hanswers =>
      refine Search.hit (Nat.succ_lt_succ hd) ?_
      simp [answers_cons, hno, hanswers, List.replicate_succ]
  | miss hanswers =>
      refine Search.miss ?_
      simp [answers_cons, hno, hanswers, List.replicate_succ]

/-- A question that remembers what it was asked was asked about the bytes up to the one that
    was found, or else about all of them. -/
theorem Search.seen {answer : Bytes → Bool} {d : Option Nat} {seen : Bytes}
    (h : Search (fun byte seen => (answer (byte :: seen), byte :: seen)) [] bytes d seen) :
    seen.reverse = bytes.take (d.elim bytes.length (· + 1)) := by
  cases h with
  | @hit d _ hd hanswers =>
      have hseen := answers_remembering answer (bytes.take (d + 1)) []
      rw [hanswers, List.append_nil] at hseen
      exact List.reverse_eq_iff.mpr hseen
  | miss hanswers =>
      have hseen := answers_remembering answer bytes []
      rw [hanswers, List.append_nil] at hseen
      rw [Option.elim_none, List.take_length]
      exact List.reverse_eq_iff.mpr hseen

end Asking

namespace Buffer

/-- The indices that a scan between two bounds visits as long as it finds nothing, in order. -/
def scanOrder (b : Buffer) (start stop : Nat) : List Nat :=
  if start ≤ stop then List.range' start (min stop b.capacity - start)
  else (List.range' stop (min start b.capacity - stop)).reverse

/-- The bytes at some indices, in the order of the indices. -/
def bytesAt (b : Buffer) (m : Memory) (indices : List Nat) : Bytes :=
  indices.flatMap fun i => b.peek m i 1

/-- The first of some indices whose byte satisfies the question, and the state of the question
    after it. -/
def findAlong (b : Buffer) (m : Memory) (ask : Question σ) : List Nat → σ → Option Nat × σ
  | [], s => (none, s)
  | i :: indices, s =>
    match m.byteAt b.regions i with
    | none => (none, s)
    | some byte =>
      match ask byte s with
      | (true, s) => (some i, s)
      | (false, s) => findAlong b m ask indices s

/-- What can be said of every scan of a buffer. -/
structure Scans (b : Buffer) (m : Memory) : Prop where
  /-- There is a byte at every index that is visited. -/
  there : ∀ start stop, ∀ i ∈ b.scanOrder start stop,
    i < b.capacity ∧ ∃ byte, b.peek m i 1 = [byte]
  /-- A scan between two bounds searches the bytes at the indices that it visits. -/
  between : ∀ {σ : Type} (ask : Question σ) (start stop : Nat) (s : σ),
    ∃ d s', Search ask s (b.bytesAt m (b.scanOrder start stop)) d s' ∧
      b.indexOfBy m start stop ask s = (d.bind ((b.scanOrder start stop)[·]?), s')
  /-- The readable bytes are searched, and the distance from the reader is told. -/
  ahead : ∀ {σ : Type} (ask : Question σ) (s : σ),
    ∃ d s', Search ask s (b.content m) d s' ∧ b.bytesBeforeBy m ask s = (d, s')

variable {b : Buffer} {m : Memory}

/-! ### One search for both directions -/

theorem findUp_eq (b : Buffer) (m : Memory) (ask : Question σ) (index count : Nat) (s : σ) :
    b.findUp m ask index count s = b.findAlong m ask (List.range' index count) s := by
  induction count generalizing index s with
  | zero => rfl
  | succ count ih =>
      rw [List.range'_succ]
      unfold findUp findAlong
      cases m.byteAt b.regions index with
      | none => rfl
      | some byte =>
          dsimp only
          rcases ask byte s with ⟨_ | _, s'⟩
          · exact ih (index + 1) s'
          · rfl

theorem findDown_eq (b : Buffer) (m : Memory) (ask : Question σ) (low count : Nat) (s : σ) :
    b.findDown m ask low count s = b.findAlong m ask (List.range' low count).reverse s := by
  induction count generalizing s with
  | zero => rfl
  | succ count ih =>
      -- The last index of the range is the first one that is visited.
      rw [List.range'_concat, Nat.one_mul, List.reverse_append, List.reverse_singleton,
        List.singleton_append]
      unfold findDown findAlong
      cases m.byteAt b.regions (low + count) with
      | none => rfl
      | some byte =>
          dsimp only
          rcases ask byte s with ⟨_ | _, s'⟩
          · exact ih s'
          · rfl

/-- A scan in either direction is a search along the indices that it visits. -/
theorem indexOfBy_eq (b : Buffer) (m : Memory) (start stop : Nat) (ask : Question σ) (s : σ) :
    b.indexOfBy m start stop ask s = b.findAlong m ask (b.scanOrder start stop) s := by
  unfold indexOfBy scanOrder
  by_cases hup : start ≤ stop
  · rw [if_pos hup, if_pos hup, findUp_eq]
  · rw [if_neg hup, if_neg hup, findDown_eq]

/-- Every scan stays within the capacity, wherever its bounds are. -/
theorem lt_of_mem_scanOrder {start stop i : Nat} (hi : i ∈ b.scanOrder start stop) :
    i < b.capacity := by
  unfold scanOrder at hi
  by_cases hup : start ≤ stop
  · rw [if_pos hup, List.mem_range'_1] at hi
    omega
  · rw [if_neg hup, List.mem_reverse, List.mem_range'_1] at hi
    omega

/-- The readable bytes are scanned from the reader up to the writer. -/
theorem scanOrder_readable (h : b.Valid) :
    b.scanOrder b.reader b.writer = List.range' b.reader b.readableBytes := by
  unfold scanOrder readableBytes
  rw [if_pos h.reader_le_writer, Nat.min_eq_left h.writer_le_capacity]

/-! ### The bytes on the way -/

theorem bytesAt_cons (b : Buffer) (m : Memory) (i : Nat) (indices : List Nat) :
    b.bytesAt m (i :: indices) = b.peek m i 1 ++ b.bytesAt m indices := List.flatMap_cons

namespace Backed

/-- The byte at an index is the one that is read there. -/
theorem exists_byte (h : b.Backed m) {i : Nat} (hi : i < b.capacity) :
    ∃ byte, m.byteAt b.regions i = some byte ∧ b.peek m i 1 = [byte] := by
  rcases Option.isSome_iff_exists.mp (h.isSome_byteAt hi) with ⟨byte, hbyte⟩
  have hlen : (b.peek m i 1).length = 1 := h.length_peek hi
  have hfirst : (b.peek m i 1)[0]? = some byte := by
    rw [h.getElem?_peek Nat.one_pos, Nat.add_zero, hbyte]
  rcases List.length_eq_one_iff.mp hlen with ⟨other, hother⟩
  rw [hother] at hfirst ⊢
  exact ⟨byte, hbyte, congrArg (fun byte => [byte]) (Option.some.inj hfirst)⟩

/-- The bytes of a stretch, one by one. -/
theorem bytesAt_range' (h : b.Backed m) (index count : Nat) :
    b.bytesAt m (List.range' index count) = b.peek m index count := by
  induction count generalizing index with
  | zero => simp [bytesAt, peek, Memory.load]
  | succ count ih =>
      rw [List.range'_succ, bytesAt_cons, ih]
      simp only [peek, Memory.load_eq h.fits]
      rw [Nat.add_comm count 1, List.take_add, List.drop_drop]

/-- A search along indices asks about the bytes at those indices. -/
theorem findAlong_search (h : b.Backed m) (ask : Question σ) {indices : List Nat}
    (hin : ∀ i ∈ indices, i < b.capacity) (s : σ) :
    ∃ d s', Search ask s (b.bytesAt m indices) d s' ∧
      b.findAlong m ask indices s = (d.bind (indices[·]?), s') := by
  -- By induction on the indices; the state of the question is another one at each of them.
  induction indices generalizing s with
  | nil => exact ⟨none, s, search_nil, rfl⟩
  | cons i indices ih =>
      rcases h.exists_byte (hin i List.mem_cons_self) with ⟨byte, hbyte, hpeek⟩
      rw [bytesAt_cons, hpeek]
      unfold findAlong
      rw [hbyte]
      rcases hask : ask byte s with ⟨yes, s'⟩
      cases yes with
      | true => exact ⟨some 0, s', search_yes hask _, by simp [hask]⟩
      | false =>
          rcases ih (fun j hj => hin j (List.mem_cons_of_mem i hj)) s' with
            ⟨d, s'', hsearch, hfind⟩
          refine ⟨d.map (· + 1), s'', search_no hask hsearch, ?_⟩
          -- The place among the later bytes is one more among all.
          cases d <;> simp [hask, hfind]

/-- Whatever is asked about the readable bytes, the distance from the reader is told. -/
theorem bytesBeforeBy_search (h : b.Backed m) (ask : Question σ) (s : σ) :
    ∃ d s', Search ask s (b.content m) d s' ∧ b.bytesBeforeBy m ask s = (d, s') := by
  have hin : ∀ i ∈ b.scanOrder b.reader b.writer, i < b.capacity :=
    fun _ => lt_of_mem_scanOrder
  rcases h.findAlong_search ask hin s with ⟨d, s', hsearch, hfind⟩
  rw [scanOrder_readable h.valid] at hsearch hfind
  rw [h.bytesAt_range'] at hsearch
  refine ⟨d, s', hsearch, ?_⟩
  unfold bytesBeforeBy
  rw [indexOfBy_eq, scanOrder_readable h.valid, hfind]
  cases hsearch with
  | @hit d _ hd hanswers =>
      -- The index that was found is as far from the reader as its byte is in the content.
      have hlen : d < b.readableBytes := h.length_content ▸ hd
      simp [List.getElem?_range' hlen]
  | miss hanswers => rfl

/-- Every scan of a backed buffer. -/
theorem scans (h : b.Backed m) : b.Scans m where
  there := by
    intro start stop i hi
    rcases h.exists_byte (lt_of_mem_scanOrder hi) with ⟨byte, -, hpeek⟩
    exact ⟨lt_of_mem_scanOrder hi, byte, hpeek⟩
  between := by
    intro σ ask start stop s
    rw [indexOfBy_eq]
    exact h.findAlong_search ask (fun _ => lt_of_mem_scanOrder) s
  ahead ask s := h.bytesBeforeBy_search ask s

end Backed

end Buffer

end Conduit
