import Conduit.Proofs.Framing.Exits
import Conduit.Proofs.Framing.Rounds
import Conduit.Proofs.Script.Seclusion
import Conduit.Proofs.Steps
import Mathlib.Algebra.Ring.Nat
import Mathlib.Data.List.DropRight

/-!
# Any Calls on Any Buffers

A framer is called, on whatever buffer it is given, before the stream has ended or after.
The next call may be on another buffer, or on the same one with other bytes in it. The
framer takes no notice of that. All that it keeps is how many bytes it has passed over
since it found a line to be too long, and that number is right whatever it has been given.

There are two ways to say since when. One can look at the framer, and count the bytes
that the last calls have used as far back as each of them left it passing over a line.
Or one can leave the framer out, and count what the last calls have used as far back as
each of them came to nothing. A call that comes to nothing uses no byte unless a line is
being passed over, so the second number tells on its own what the framer remembers.

What a call promises is said of a machine that holds the buffer under a name, among any
others that may share its bytes. A line that is taken lies in a new cell. It goes into the
machine under a name of its own, and then no program changes it that leaves it alone.

## Main definitions

* `Trial.used`, `Trial.usedWhile`: The bytes that a call has used, and that the last calls have.
* `LineFramer.Called`: A call of a framer.
* `LineFramer.Stands`: Where a framer stands after some calls.
* `LineFramer.SafeOn`: What is promised of an attempt.

## Theorems

* `usedWhile_concat`: What the last calls have used.
* `Exit.passes`: What an attempt makes of the framer.
* `Exit.failure`, `Exit.becomes`, `Exit.progress`, `Exit.first`, `Exit.fresh`: What it makes
  of the bytes.
* `Exit.secluded`: A line that is taken is changed by nobody else.
* `stands_of_isFresh`, `stands_of_isPassing`: What a framer remembers.
* `Called.stands`: What one call keeps.
* `runs_safe`: What holds after any calls, and of the next one.
* `runs_safe_sampleCalls`: A long line over several calls, and one that is taken.
-/

namespace Conduit

open Region
open Steps (Runs)

namespace Trial

variable {δ : Type} {calls : List (Trial δ)} {c : Trial δ}

/-- How many bytes a call has used. -/
def used (c : Trial δ) : Nat := c.step.bytes.buffer.reader - c.before.buffer.reader

/-- How many bytes the last calls have used, as far back as each of them is such a call. -/
def usedWhile (such : Trial δ → Bool) (calls : List (Trial δ)) : Nat :=
  ((calls.rtakeWhile such).map used).sum

/-- The call has come to nothing. -/
def isVain (c : Trial δ) : Bool :=
  match c.step.finding with
  | .nothing => true
  | _ => false

theorem usedWhile_concat (such : Trial δ → Bool) :
    usedWhile such (calls ++ [c]) = if such c then usedWhile such calls + c.used else 0 := by
  rw [usedWhile, List.rtakeWhile_concat]
  by_cases hsuch : such c = true
  · rw [if_pos hsuch, if_pos hsuch, List.map_append, List.sum_append, usedWhile, List.map_singleton,
      List.sum_singleton]
  · rw [if_neg hsuch, if_neg hsuch]
    rfl

end Trial

namespace LineFramer

/-- A call of a framer on a buffer, whichever it is, before the stream has ended or after. -/
def Called (f : LineFramer) (c : Trial LineFramer) (f' : LineFramer) : Prop :=
  c.before.buffer.Backed c.before.memory ∧ (∃ atEnd, c = Decoder.lines.trial atEnd f c.before) ∧
    f' = c.step.state

/-- Where a framer stands after some calls, that was `new` before them. -/
structure Stands (new : LineFramer) (calls : List (Trial LineFramer)) (f : LineFramer) : Prop where
  settings : f.fresh = new.fresh
  long : f.discarding = true → f.maxLength < f.discardedBytes
  /-- A framer that is not passing over a line remembers no byte of one. -/
  nothing : f.discarding = false → f.discardedBytes = 0
  /-- What has been passed over are the bytes that were used since the framer does so. -/
  count : f.discardedBytes = Trial.usedWhile (fun c => c.step.state.discarding) calls
  /-- What the framer remembers can be told from the calls since the last that found a line. -/
  recalls : (f.discarding = true ↔ 0 < Trial.usedWhile Trial.isVain calls) ∧
    f.discardedBytes = Trial.usedWhile Trial.isVain calls

/-- What is promised of an attempt `a` on a buffer `b` with a name. -/
structure SafeOn (f : LineFramer) (r : Registers) (name : String) (b : Buffer) (a : Attempt) :
    Prop where
  /-- The attempt is what comes of a call, whether the stream has ended or not. -/
  called : ∀ atEnd, (Decoder.lines.attempt atEnd f ⟨b, r.memory⟩).state = a.framer ∧
    (Decoder.lines.attempt atEnd f ⟨b, r.memory⟩).bytes.buffer = a.buffer ∧
    (Decoder.lines.attempt atEnd f ⟨b, r.memory⟩).finding =
      match a.result with
      | .ok (some line) => .message (.own (.buffer (Sealed.ofView line a.memory)))
      | .ok none => .nothing
      | .error cause => .failed cause
  /-- It fails over a line that is too long, and over nothing else. -/
  failure : ∀ cause, a.result = .error cause →
    ∃ length, f.maxLength < length ∧ cause = .decode (.overLong length f.maxLength)
  range : ∀ cause, a.result ≠ .error (.range cause)
  /-- The reader has moved on, if at all, and nothing else of the buffer has changed, -/
  onward : b.Onward a.buffer
  /-- nor has any byte that is there. -/
  bytes : r.memory.Becomes [] a.memory
  progress : a.result ≠ .ok none → b.reader < a.buffer.reader
  /-- A line is the first one that can be read, and not too long. -/
  first : ∀ line, a.result = .ok (some line) → ∃ body ending, f.terminator.Ends body ending ∧
    body.length ≤ f.maxLength ∧ body ++ ending <+: b.content r.memory ∧
    line.content a.memory = if f.strip then body else body ++ ending
  /-- Whatever is done later to the buffer, or to any other, the line stays as it is. -/
  secluded : ∀ line, a.result = .ok (some line) → ∀ x later,
    let kept := (r.showTaken name line a.buffer a.memory (some x)).2
    kept.Avoids x later → (kept.run later).2.get? x = some line ∧
      line.content (kept.run later).2.memory = line.content a.memory

variable {f f' new : LineFramer} {b line : Buffer} {m : Memory} {a : Attempt} {cause : Error}
  {calls : List (Trial LineFramer)} {c : Trial LineFramer} {r : Registers} {name x : String}

/-! ### One attempt -/

namespace Exit

/-- An attempt that comes to something leaves the framer with no line passed over. One that
    does not leaves everything as it was, or passes over a line, or over more of it. -/
theorem passes (h : f.Exit b m a) (hvalid : b.Valid)
    (hlong : f.discarding = true → f.maxLength < f.discardedBytes)
    (hnothing : f.discarding = false → f.discardedBytes = 0) :
    (a.result ≠ .ok none ∧ a.framer = f.fresh) ∨
      (a.result = .ok none ∧ f.IsFresh ∧ a.framer = f ∧ a.buffer = b) ∨
      ∃ n, a.result = .ok none ∧ f.maxLength < n ∧ a.framer = f.passing n ∧
        n = f.discardedBytes + (a.buffer.reader - b.reader) := by
  have hreader := hvalid.reader_le_writer
  have hfresh : f.discarding = false → f.IsFresh := fun hidle => ⟨hidle, hnothing hidle⟩
  cases h with
  | ended _ _ _ => exact Or.inl ⟨nofun, rfl⟩
  | dropped hidle _ _ _ => exact Or.inl ⟨nofun, (fresh_eq_self (hfresh hidle)).symm⟩
  | taken hidle _ _ _ _ _ => exact Or.inl ⟨nofun, (fresh_eq_self (hfresh hidle)).symm⟩
  | passing hpassing _ =>
      have hmore := hlong hpassing
      exact Or.inr (Or.inr ⟨_, rfl, by omega, rfl, rfl⟩)
  | begun hidle _ hmore =>
      refine Or.inr (Or.inr ⟨_, rfl, hmore, rfl, ?_⟩)
      rw [hnothing hidle]
      exact (Nat.zero_add _).symm
  | waiting hidle _ _ => exact Or.inr (Or.inl ⟨rfl, hfresh hidle, rfl, rfl⟩)

theorem failure (h : f.Exit b m a) (hlong : f.discarding = true → f.maxLength < f.discardedBytes)
    (hfailed : a.result = .error cause) :
    ∃ length, f.maxLength < length ∧ cause = .decode (.overLong length f.maxLength) := by
  cases h with
  | @ended body _ _ hpassing _ _ =>
      have hmore := hlong hpassing
      cases hfailed
      exact ⟨f.discardedBytes + body.length, by omega, rfl⟩
  | dropped _ _ _ hmore =>
      cases hfailed
      exact ⟨_, hmore, rfl⟩
  | taken _ _ _ _ _ _ | passing _ _ | begun _ _ _ | waiting _ _ _ => exact nomatch hfailed

theorem becomes (h : f.Exit b m a) : m.Becomes [] a.memory := by
  cases h with
  | taken _ _ _ _ _ _ => exact Memory.becomes_alloc [] m _
  | ended _ _ _ | dropped _ _ _ _ | passing _ _ | begun _ _ _ | waiting _ _ _ =>
      exact Memory.Becomes.refl [] m

/-- Where a line ends, its ending is used up. -/
theorem progress (h : f.Exit b m a) (hsome : a.result ≠ .ok none) :
    b.reader < a.buffer.reader := by
  cases h with
  | ended _ hends _ | dropped _ hends _ _ | taken _ hends _ _ _ _ =>
      have hpos := hends.length_pos
      dsimp only
      omega
  | passing _ _ | begun _ _ _ | waiting _ _ _ => exact absurd rfl hsome

theorem first (h : f.Exit b m a) (htaken : a.result = .ok (some line)) :
    ∃ body ending, f.terminator.Ends body ending ∧ body.length ≤ f.maxLength ∧
      body ++ ending <+: b.content m ∧
      line.content a.memory = if f.strip then body else body ++ ending := by
  cases h with
  | @taken body ending later _ _ _ _ _ hends hcontent hshort _ hline =>
      cases htaken
      exact ⟨body, ending, hends, hshort, ⟨later, hcontent.symm⟩, hline⟩
  | ended _ _ _ | dropped _ _ _ _ | passing _ _ | begun _ _ _ | waiting _ _ _ =>
      exact nomatch htaken

/-- A line that is taken lies in a new cell. -/
theorem fresh (h : f.Exit b m a) (hbacked : b.Backed m) (htaken : a.result = .ok (some line)) :
    line.Backed a.memory ∧ Registers.Fresh m (line, a.memory) := by
  cases h with
  | @taken _ _ _ _ _ _ length _ _ _ _ hread _ =>
      cases htaken
      exact ⟨(hbacked.readBytes length _ hread).1,
        (Registers.readBytes_fresh b m length _ hread).2.2⟩
  | ended _ _ _ | dropped _ _ _ _ | passing _ _ | begun _ _ _ | waiting _ _ _ =>
      exact nomatch htaken

/-- A line that is taken is changed by no program that leaves it alone. -/
theorem secluded (h : f.Exit b r.memory a) (hr : r.Sound) (hb : r.get? name = some b)
    (honward : b.Onward a.buffer) (htaken : a.result = .ok (some line)) {later : List BufferStep}
    (hlater : (r.showTaken name line a.buffer a.memory (some x)).2.Avoids x later) :
    ((r.showTaken name line a.buffer a.memory (some x)).2.run later).2.get? x = some line ∧
      line.content ((r.showTaken name line a.buffer a.memory (some x)).2.run later).2.memory =
        line.content a.memory := by
  have hbacked := hr name b hb
  rcases h.fresh hbacked htaken with ⟨hline, hfresh⟩
  -- What is left of the buffer looks where it looked before, so it does not see the line.
  have hregions : a.buffer.regions = b.regions := by
    rcases honward with ⟨n, -, hn⟩
    rw [hn]
  have hrest : a.buffer.Backed a.memory :=
    ⟨honward.valid hbacked.valid, fun s hs => h.becomes.fits (hbacked.fits s (hregions ▸ hs))⟩
  have hsound : (r.showTaken name line a.buffer a.memory (some x)).2.Sound :=
    (hr.showTaken h.becomes hline hrest (some x)).sound
  rcases Registers.showTaken_apart (x := x) hr hb hregions hfresh with ⟨hstored, hmemory, hapart⟩
  rcases Registers.run_avoids hsound hstored hapart hlater with ⟨hlast, hcontent⟩
  exact ⟨hlast, hcontent.trans (by rw [hmemory])⟩

end Exit

/-! ### Calls, one after the other -/

section Stands

variable (hsettings : f.fresh = new.fresh)
include hsettings

/-- A framer that remembers nothing, after calls that are not counted. -/
theorem stands_of_isFresh (h : f.IsFresh)
    (hcount : Trial.usedWhile (fun c => c.step.state.discarding) calls = 0)
    (hvain : Trial.usedWhile Trial.isVain calls = 0) : Stands new calls f := by
  have hzero := h.discardedBytes
  refine ⟨hsettings, fun his => ?_, fun _ => hzero, hzero.trans hcount.symm, ?_,
    hzero.trans hvain.symm⟩
  · exact nomatch h.discarding.symm.trans his
  · rw [h.discarding, hvain]
    exact iff_of_false nofun (Nat.lt_irrefl 0)

/-- A framer that remembers as many bytes as the last calls have used. -/
theorem stands_of_isPassing {n : Nat} (h : f.IsPassing n) (hlong : f.maxLength < n)
    (hcount : Trial.usedWhile (fun c => c.step.state.discarding) calls = n)
    (hvain : Trial.usedWhile Trial.isVain calls = n) : Stands new calls f := by
  have hsome := h.discardedBytes
  refine ⟨hsettings, fun _ => hsome ▸ hlong, fun hnot => ?_, hsome.trans hcount.symm, ?_,
    hsome.trans hvain.symm⟩
  · exact nomatch h.discarding.symm.trans hnot
  · rw [h.discarding, hvain]
    exact iff_of_true rfl (Nat.zero_lt_of_lt hlong)

end Stands

/-- One call, whatever came before it. -/
theorem Called.stands (hcalled : Called f c f') (h : Stands new calls f) :
    Stands new (calls ++ [c]) f' := by
  rcases hcalled with ⟨hbacked, ⟨atEnd, hcall⟩, rfl⟩
  have hstep : c.step = Decoder.lines.attempt atEnd f c.before := by rw [hcall]; rfl
  obtain ⟨a, ha⟩ : ∃ a, a = f.decode c.before.buffer c.before.memory := ⟨_, rfl⟩
  have hstate : c.step.state = a.framer := by rw [hstep, ha]; rfl
  have hused : c.used = a.buffer.reader - c.before.buffer.reader := by
    rw [Trial.used, hstep, ha]
    rfl
  have hvain : c.isVain = true ↔ a.result = .ok none := by
    rw [Trial.isVain, hstep, Decoder.lines_attempt, ← ha]
    rcases a.result with cause | _ | line <;> simp
  have hexit : f.Exit c.before.buffer c.before.memory a := ha ▸ decode_exit hbacked
  rcases hexit.passes hbacked.valid h.long h.nothing with
    ⟨hsome, hframer⟩ | ⟨hnone, hfresh, hframer, hbuffer⟩ | ⟨n, hnone, hlong, hframer, hn⟩
  · -- Something was found, and nothing is remembered.
    rw [hframer] at hstate
    have hnot : ¬ c.step.state.discarding = true := by rw [hstate]; exact nofun
    rw [hstate]
    exact stands_of_isFresh h.settings f.isFresh_fresh (by rw [Trial.usedWhile_concat, if_neg hnot])
      (by rw [Trial.usedWhile_concat, if_neg fun hv => hsome (hvain.mp hv)])
  · -- Nothing was found, and nothing is passed over.
    rw [hframer] at hstate
    have hnot : ¬ c.step.state.discarding = true := by
      rw [hstate, hfresh.discarding]
      exact nofun
    have hzero : Trial.usedWhile Trial.isVain calls = 0 := by
      rw [← h.recalls.2, hfresh.discardedBytes]
    rw [hstate]
    refine stands_of_isFresh h.settings hfresh (by rw [Trial.usedWhile_concat, if_neg hnot]) ?_
    rw [Trial.usedWhile_concat, if_pos (hvain.mpr hnone), hzero, hused, hbuffer, Nat.sub_self]
  · -- Nothing was found, and all that is there is passed over.
    rw [hframer] at hstate
    have his : c.step.state.discarding = true := by rw [hstate]; rfl
    rw [← hused] at hn
    rw [hstate]
    refine stands_of_isPassing h.settings (isPassing_passing _ _) hlong ?_ ?_
    · rw [Trial.usedWhile_concat, if_pos his, ← h.count, hn]
    · rw [Trial.usedWhile_concat, if_pos (hvain.mpr hnone), ← h.recalls.2, hn]

/-- After any calls, each on any buffer, before the stream has ended or after, a framer
    remembers the bytes of a long line that it has passed over, and no others. Whatever is
    called next, it fails over long lines only, moves the reader on and nothing else, and what
    it finds is a line that is not too long, and that nobody else changes. -/
theorem runs_safe (maxLength : Nat) (strip : Bool) (terminator : Terminator)
    (h : Runs Called { maxLength, strip, terminator } calls f) :
    Stands { maxLength, strip, terminator } calls f ∧
      ∀ (r : Registers) (name : String) (b : Buffer), r.Sound → r.get? name = some b →
        f.SafeOn r name b (f.decode b r.memory) := by
  -- Of the calls that have been, the next one needs only that what is passed over is too long.
  have hstands : Stands { maxLength, strip, terminator } calls f :=
    h.keeps (P := Stands _) (stands_of_isFresh rfl ⟨rfl, rfl⟩ rfl rfl)
      fun _ _ _ _ hbefore hcalled => hcalled.stands hbefore
  refine ⟨hstands, fun r name b hr hb => ?_⟩
  have hbacked := hr name b hb
  have hexit := f.decode_exit hbacked
  have honward := f.decode_onward hbacked.valid r.memory
  have hfailure : ∀ cause, (f.decode b r.memory).result = .error cause →
      ∃ length, f.maxLength < length ∧ cause = .decode (.overLong length f.maxLength) :=
    fun _ => hexit.failure hstands.long
  exact {
    called := fun _ => ⟨rfl, rfl, rfl⟩
    failure := hfailure
    range := fun cause hrange => by
      rcases hfailure _ hrange with ⟨length, -, hcause⟩
      exact nomatch hcause
    onward := honward
    bytes := hexit.becomes
    progress := hexit.progress
    first := fun _ => hexit.first
    secluded := fun _ htaken x _ => hexit.secluded hr hb honward htaken }

/-- A framer of lines of up to four bytes, without their endings. -/
def sample : LineFramer := { maxLength := 4, strip := true, terminator := .both }

/-- A line that is too long, and more of it in another buffer after the stream has ended. -/
def sampleCalls : List (Trial LineFramer) :=
  let begun := Decoder.lines.trial false sample
    (Sealed.wrap .big [0x74, 0x6f, 0x6f, 0x6c, 0x6f, 0x6e, 0x67])
  [begun, Decoder.lines.trial true begun.step.state (Sealed.wrap .little [0x65, 0x72])]

/-- A buffer that overlaps with a slice of it. -/
def sampleLaid : List BufferStep :=
  [⟨"laid", "laid", .inl (.wrap .big [0x61, 0x62, 0x0d, 0x0a, 0x78])⟩,
    ⟨"slice", "slice", .inl (.slice "laid" 0 3)⟩]

/-- Both are written to, and the second forgets what has been read. -/
def sampleLater : List BufferStep :=
  [⟨"laid", "laid", .inr (.setBytes 0 [0x79, 0x79])⟩,
    ⟨"slice", "slice", .inr (.skip 1)⟩, ⟨"slice", "slice", .inr .discardReadBytes⟩]

/-- With a line passed over, the first line ends it; with none, the line is taken, and stays
    as it is when its bytes in the buffer are written over. -/
theorem runs_safe_sampleCalls :
    let r := (Registers.run {} sampleLaid).2
    ∃ b, r.get? "laid" = some b ∧
      (∃ f, Runs Called sample sampleCalls f ∧ Stands sample sampleCalls f ∧
        Trial.usedWhile Trial.isVain sampleCalls = 9 ∧ f.SafeOn r "laid" b (f.decode b r.memory) ∧
        (f.decode b r.memory).result = .error (.decode (.overLong 11 4))) ∧
      ∃ line, (sample.decode b r.memory).result = .ok (some line) ∧
        let later := ((r.showTaken "laid" line (sample.decode b r.memory).buffer
          (sample.decode b r.memory).memory (some "line")).2.run sampleLater).2
        later.get? "line" = some line ∧ line.content later.memory = [0x61, 0x62] ∧
          b.content later.memory = [0x79, 0x0d, 0x0d, 0x0a, 0x78] := by
  intro r
  have hr : r.Sound := Registers.run_sound Registers.sound_nil sampleLaid
  have hlaid : r.get? "laid" = some (Buffer.wrap {} .big [0x61, 0x62, 0x0d, 0x0a, 0x78]).1 := by
    decide
  have hcalls : Runs Called sample sampleCalls (sample.passing 9) :=
    ⟨_, ⟨(Buffer.Made.wrap {} .big _).1, ⟨false, rfl⟩, rfl⟩,
      _, ⟨(Buffer.Made.wrap {} .little _).1, ⟨true, rfl⟩, rfl⟩, rfl⟩
  have hsafe := runs_safe 4 true .both hcalls
  have hnew : Runs Called sample [] sample := rfl
  have htaken := ((runs_safe 4 true .both hnew).2 r "laid" _ hr hlaid).secluded _ rfl "line"
    sampleLater ⟨⟨by decide, nofun, by decide, by decide⟩, ⟨by decide, nofun, by decide, by decide⟩,
      ⟨by decide, nofun, by decide, by decide⟩, trivial⟩
  exact ⟨_, hlaid, ⟨_, hcalls, hsafe.1, by decide, hsafe.2 r "laid" _ hr hlaid, by decide⟩,
    _, rfl, htaken.1, htaken.2.trans (by decide), by decide⟩

end LineFramer

end Conduit
