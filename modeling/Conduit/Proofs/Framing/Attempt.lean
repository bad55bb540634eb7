import Conduit.Proofs.Buffer.Content
import Conduit.Proofs.Framing.Cut

/-!
# One Attempt to Take a Line

What a line framer makes of the readable bytes, said in terms of the lines that they
are. If the first line ends in them, the attempt deals with that line: it gives it
back, or drops it and says how long it was. If it does not, the attempt comes to
nothing, and what there is of the line stays where it is, unless it is already longer
than a line may be.

The first bytes of that line may be gone by then, because an earlier attempt passed
over them. They are `begun` here. A framer remembers only how many they were, so
`Passed` says that this is right; a framer that is fresh has passed over nothing.

## Main definitions

* `LineFramer.verdict`: What becomes of a line.
* `LineFramer.Passed`: The bytes that a framer has passed over.
* `LineFramer.Awaits`: Where a framer stands between two chunks.
* `Attempt.Took`, `Attempt.Waited`: What an attempt comes to.

## Theorems

* `isFresh_fresh`, `isPassing_passing`, `fresh_eq_self`, `passing_eq_self`, `eq_of_fresh`: What
  a framer remembers.
* `verdict_long`, `verdict_short`: What becomes of a line.
* `Awaits.discarded_eq`: What a framer remembers of an unfinished line.
* `passTo_eq`, `took_passTo`, `waited_passTo`: Bytes that are passed over.
* `take_eq`, `take_trim`, `took_take`: A line that is taken.
* `decode_took`: An attempt deals with the first line, if its end is there.
* `decode_waited`: Otherwise it waits.
-/

namespace Conduit.LineFramer

open Terminator

variable {f : LineFramer} {b : Buffer} {m : Memory} {begun : Bytes}

/-- What a framer makes of the bytes of a line. -/
def trim (f : LineFramer) (l : Line) : Bytes :=
  if f.strip then l.body else l.bytes

/-- What becomes of a line: it is taken, or dropped for its length. -/
def verdict (f : LineFramer) (l : Line) : Except Error Bytes :=
  if f.maxLength < l.body.length then .error (f.tooLong l.body.length) else .ok (f.trim l)

/-- The framer with no line passed over. -/
def fresh (f : LineFramer) : LineFramer := { f with discarding := false, discardedBytes := 0 }

/-- The framer with so many bytes of a line passed over. -/
def passing (f : LineFramer) (count : Nat) : LineFramer :=
  { f with discarding := true, discardedBytes := count }

/-- The framer is not passing over a line, and remembers nothing of one. -/
structure IsFresh (f : LineFramer) : Prop where
  discarding : f.discarding = false
  discardedBytes : f.discardedBytes = 0

/-- The framer is passing over a line, of which there were so many bytes. -/
structure IsPassing (f : LineFramer) (count : Nat) : Prop where
  discarding : f.discarding = true
  discardedBytes : f.discardedBytes = count

/-- The framer has passed over the bytes `begun` of the line that is coming in. -/
def Passed (f : LineFramer) (begun : Bytes) : Prop :=
  (begun = [] ∧ f.IsFresh) ∨ (f.maxLength < begun.length ∧ f.IsPassing begun.length)

/-- The framer waits for the end of a line of which there is `left`. It has passed over that
    if it is too much, and otherwise it is all that can be read. -/
def Awaits (f : LineFramer) (content left : Bytes) : Prop :=
  (left.length ≤ f.maxLength ∧ f.IsFresh ∧ content = left) ∨
    (f.maxLength < left.length ∧ f.IsPassing left.length ∧ content = [])

/-- The line that an attempt comes to, as bytes. -/
def Attempt.found (a : Attempt) : Except Error (Option Bytes) :=
  a.result.map (·.map (·.content a.memory))

/-- An attempt has dealt with a line, which used up the first `used` bytes. -/
structure Attempt.Took (a : Attempt) (f : LineFramer) (b : Buffer) (m : Memory) (l : Line)
    (used : Nat) : Prop where
  found : a.found = (f.verdict l).map some
  framer : a.framer = f.fresh
  buffer : a.buffer = { b with reader := b.reader + used }
  sound : a.buffer.Sound a.memory
  content : a.buffer.content a.memory = (b.content m).drop used
  notices : a.notices = []
  order : ∀ line, a.result = .ok (some line) → line.order = b.order

/-- An attempt has not come to anything yet, with `left` there of the line. -/
structure Attempt.Waited (a : Attempt) (f : LineFramer) (b : Buffer) (m : Memory)
    (left : Bytes) : Prop where
  result : a.result = .ok none
  memory : a.memory = m
  maxLength : a.framer.maxLength = f.maxLength
  fresh : a.framer.fresh = f.fresh
  buffer : a.buffer = b ∨ a.buffer = { b with reader := b.reader + b.readableBytes }
  sound : a.buffer.Sound m
  awaits : a.framer.Awaits (a.buffer.content m) left
  notices : left.length ≤ f.maxLength → a.notices = []

theorem isFresh_fresh (f : LineFramer) : f.fresh.IsFresh := ⟨rfl, rfl⟩

theorem isPassing_passing (f : LineFramer) (count : Nat) : (f.passing count).IsPassing count :=
  ⟨rfl, rfl⟩

theorem fresh_eq_self (h : f.IsFresh) : f.fresh = f := by
  rw [fresh, ← h.discarding, ← h.discardedBytes]

theorem passing_eq_self {count : Nat} (h : f.IsPassing count) : f.passing count = f := by
  rw [passing, ← h.discarding, ← h.discardedBytes]

theorem verdict_long {l : Line} (h : f.maxLength < l.body.length) :
    f.verdict l = .error (f.tooLong l.body.length) :=
  if_pos h

theorem verdict_short {l : Line} (h : ¬ f.maxLength < l.body.length) :
    f.verdict l = .ok (f.trim l) :=
  if_neg h

theorem eq_of_fresh {g : LineFramer} (h : f.fresh = g.fresh)
    (hdiscarding : f.discarding = g.discarding) (hbytes : f.discardedBytes = g.discardedBytes) :
    f = g := by
  cases f
  cases g
  simp_all [fresh]

/-- How much a framer has passed over, and what it can read, follow from what there is of the
    line that it waits for. -/
theorem Awaits.discarded_eq {content left : Bytes} (h : f.Awaits content left) :
    f.discarding = decide (f.maxLength < left.length) ∧
      f.discardedBytes = (if f.maxLength < left.length then left.length else 0) ∧
      content = if f.maxLength < left.length then [] else left := by
  rcases h with ⟨hshort, hfresh, hcontent⟩ | ⟨hlong, hpassed, hcontent⟩
  · have hnot := Nat.not_lt.mpr hshort
    rw [decide_eq_false hnot, if_neg hnot, if_neg hnot]
    exact ⟨hfresh.discarding, hfresh.discardedBytes, hcontent⟩
  · rw [decide_eq_true hlong, if_pos hlong, if_pos hlong]
    exact ⟨hpassed.discarding, hpassed.discardedBytes, hcontent⟩

/-! ### Passing over -/

theorem passTo_eq {next : LineFramer} {index : Nat} (h : index ≤ b.writer)
    (result : Except Error (Option Buffer)) (notices : List Notice) :
    f.passTo next b m index result notices =
      ⟨result, next, { b with reader := index }, m, notices⟩ := by
  rw [passTo, Buffer.setReader, if_neg (Nat.not_lt.mpr h)]

/-- Dropping a line deals with it. -/
theorem took_passTo (hsound : b.Sound m) {l : Line} {used : Nat} (hused : used ≤ b.readableBytes)
    (hlong : f.maxLength < l.body.length) :
    (f.passTo f.fresh b m (b.reader + used) (.error (f.tooLong l.body.length))).Took f b m l
      used := by
  have hreader := hsound.valid.reader_le_writer
  rcases hsound.advance hused with ⟨hlater, hcontent⟩
  rw [passTo_eq (by rw [Buffer.readableBytes] at hused; omega)]
  refine ⟨?_, rfl, rfl, hlater, hcontent, rfl, ?_⟩
  · rw [verdict_long hlong]
    rfl
  · intro line hline
    cases hline

/-- Passing over what there is of a line waits for the rest of it. -/
theorem waited_passTo (hsound : b.Sound m) {left : Bytes} (hlong : f.maxLength < left.length)
    (g : LineFramer) (notices : List Notice) :
    (g.passTo (f.passing left.length) b m b.writer (.ok none) notices).Waited f b m left := by
  have hreader := hsound.valid.reader_le_writer
  have hwriter : b.reader + b.readableBytes = b.writer := by rw [Buffer.readableBytes]; omega
  rcases hsound.advance (Nat.le_refl b.readableBytes) with ⟨hlater, hcontent⟩
  rw [hwriter] at hlater hcontent
  rw [passTo_eq (Nat.le_refl _)]
  refine ⟨rfl, rfl, rfl, rfl, Or.inr (by rw [hwriter]), hlater,
    Or.inr ⟨hlong, isPassing_passing _ _, ?_⟩, fun h => absurd h (Nat.not_le.mpr hlong)⟩
  rw [hcontent, List.drop_of_length_le (Nat.le_of_eq hsound.length_content)]

/-! ### Taking -/

/-- A line that is there can be taken. It is copied, with its ending or, if the framer strips
    that, without. -/
theorem take_eq (hvalid : b.Valid) (hfits : ∀ r ∈ b.regions, r.Fits m) {length ending : Nat}
    (hlen : length + ending ≤ b.readableBytes) :
    ∃ line bytes, f.take b m length ending =
        ⟨.ok (some line), f, { b with reader := b.reader + (length + ending) },
          (m.alloc bytes).2, []⟩ ∧
      line.content (m.alloc bytes).2 =
        (b.content m).take (if f.strip then length else length + ending) ∧
      line.order = b.order ∧
      ∃ copied rest, b.readBytes m copied = .ok (line, rest, (m.alloc bytes).2) := by
  rw [take]
  by_cases hstrip : f.strip
  · rw [if_pos hstrip, if_pos hstrip]
    rcases Buffer.readBytes_eq hvalid hfits (Nat.le_trans (Nat.le_add_right _ _) hlen) with
      ⟨line, bytes, hread, hline, horder⟩
    -- The ending is not copied, and has to be skipped after that.
    have hskip : ending ≤ ({ b with reader := b.reader + length } : Buffer).readableBytes := by
      rw [Buffer.readableBytes] at hlen ⊢
      exact (by omega : ending ≤ b.writer - (b.reader + length))
    refine ⟨line, bytes, ?_, hline, horder, length, _, hread⟩
    rw [hread]
    dsimp only
    rw [Buffer.skip_eq hskip, ← Nat.add_assoc]
  · rw [if_neg hstrip, if_neg hstrip]
    rcases Buffer.readBytes_eq hvalid hfits hlen with ⟨line, bytes, hread, hline, horder⟩
    exact ⟨line, bytes, by rw [hread], hline, horder, length + ending, _, hread⟩

/-- What is taken of a line is what the framer makes of it. -/
theorem take_trim (f : LineFramer) (l : Line) (rest : Bytes) :
    (l.bytes ++ rest).take
        (if f.strip then l.body.length else l.body.length + l.ending.length) = f.trim l := by
  rw [trim]
  by_cases hstrip : f.strip
  · rw [if_pos hstrip, if_pos hstrip, Line.bytes, List.append_assoc, List.take_left' rfl]
  · rw [if_neg hstrip, if_neg hstrip, List.take_left' (by rw [Line.bytes, List.length_append])]

/-- Taking a line deals with it. -/
theorem took_take (hsound : b.Sound m) (hfresh : f.IsFresh) {l : Line} {rest : Bytes}
    (hcontent : b.content m = l.bytes ++ rest) (hshort : ¬ f.maxLength < l.body.length) :
    (f.take b m l.body.length l.ending.length).Took f b m l
      (l.body.length + l.ending.length) := by
  have hlen := hsound.length_content
  rw [hcontent, List.length_append, Line.bytes, List.length_append] at hlen
  -- The line is among the readable bytes, so none of the calls for it can fail.
  have hused : l.body.length + l.ending.length ≤ b.readableBytes := by omega
  rcases take_eq hsound.valid hsound.fits hused with ⟨line, bytes, htake, hline, horder, -⟩
  rcases hsound.advance hused with ⟨hlater, hrest⟩
  rw [htake]
  refine ⟨?_, (fresh_eq_self hfresh).symm, rfl, (hlater.alloc bytes).1,
    (hlater.alloc bytes).2.trans hrest, rfl, ?_⟩
  · rw [verdict_short hshort, ← take_trim f l rest, ← hcontent, ← hline]
    rfl
  · rintro _ ⟨⟩
    exact horder

/-! ### Attempts -/

/-- An attempt deals with the first line, if its end is there. -/
theorem decode_took (hsound : b.Sound m) (hpassed : f.Passed begun) {body ending rest : Bytes}
    (hcontent : b.content m = body ++ ending ++ rest)
    (hend : f.terminator.firstEnd (b.content m) = some (body.length, ending.length)) :
    (f.decode b m).Took f b m ⟨begun ++ body, ending⟩ (body.length + ending.length) := by
  have hlen := hsound.length_content
  rw [hcontent, List.length_append, List.length_append] at hlen
  rw [decode, hend]
  rcases hpassed with ⟨rfl, hfresh⟩ | ⟨hlong, hpassed⟩
  · -- All of the line is here, and its length is looked at for the first time.
    rw [hfresh.discarding, List.nil_append]
    change Attempt.Took (if _ then _ else _) _ _ _ _ _
    by_cases hlong : f.maxLength < body.length
    · rw [if_pos hlong, Nat.add_assoc]
      have hused : body.length + ending.length ≤ b.readableBytes := by omega
      have htook := took_passTo hsound (l := ⟨body, ending⟩) hused hlong
      rwa [fresh_eq_self hfresh] at htook
    · rw [if_neg hlong]
      exact took_take hsound hfresh (l := ⟨body, ending⟩) hcontent hlong
  · -- It was too long before its end came.
    rw [hpassed.discarding]
    change Attempt.Took (passTo f f.fresh b m _ (.error (f.tooLong (f.discardedBytes + _)))) _ _
      _ _ _
    rw [hpassed.discardedBytes]
    rw [Nat.add_assoc, show begun.length + body.length = (begun ++ body).length from
      List.length_append.symm]
    refine took_passTo hsound (l := ⟨begun ++ body, ending⟩) (by omega) ?_
    change f.maxLength < (begun ++ body).length
    rw [List.length_append]
    omega

/-- An attempt waits, if there is no end of a line. -/
theorem decode_waited (hsound : b.Sound m) (hpassed : f.Passed begun)
    (hend : f.terminator.firstEnd (b.content m) = none) :
    (f.decode b m).Waited f b m (begun ++ b.content m) := by
  have hlen := hsound.length_content
  rw [decode, hend]
  rcases hpassed with ⟨rfl, hfresh⟩ | ⟨hlong, hpassed⟩
  · rw [hfresh.discarding, List.nil_append, ← hlen]
    change Attempt.Waited (if _ then _ else _) _ _ _ _
    by_cases hlong : f.maxLength < (b.content m).length
    · rw [if_pos hlong]
      exact waited_passTo hsound hlong _ _
    · rw [if_neg hlong]
      exact ⟨rfl, rfl, rfl, rfl, Or.inl rfl, hsound,
        Or.inl ⟨Nat.le_of_not_lt hlong, hfresh, rfl⟩, fun _ => rfl⟩
  · -- What is there of the line is counted with what was passed over before.
    rw [hpassed.discarding, ← hlen]
    change Attempt.Waited (passTo _ (f.passing (f.discardedBytes + _)) _ _ _ _) _ _ _ _
    rw [hpassed.discardedBytes, ← List.length_append]
    refine waited_passTo hsound ?_ _ []
    rw [List.length_append]
    omega

end Conduit.LineFramer
