import Conduit.Proofs.Framing.Exits
import Conduit.Proofs.Framing.Intake

/-!
# A Byte String in One Piece

A framer in front of a buffer in which all of a byte string is. It is asked for lines
until it has none, and then the string has been split: the framer has given its verdict
on each line, in order. What is left after the last line ending stays where it is, or
has been passed over if it is longer than a line may be.

The framer may not have passed over anything before. Of the buffer it is asked that its
cursors are in order and that its regions are there. The regions may overlap, because
nothing is written.

## Theorems

* `ask_of_decode`, `ask_line`, `ask_rest`: What comes of one question.
* `drain_of_splits`: The lines are dealt with one after the other.
* `drain_splits`: What comes of all of them.
* `sampleWhole_backed`, `drain_splits_sampleWhole`: A line, a long line, and the rest.
-/

namespace Conduit.Intake

open Terminator

variable {i : Intake} {body ending later left : Bytes} {lines : List Line}

theorem ask_of_decode {a : LineFramer.Attempt} (h : i.framer.decode i.buffer i.memory = a) :
    i.ask = (a.found, ⟨a.framer, a.buffer, a.memory⟩) := by
  rw [ask, h]

/-- A line whose end is there is dealt with, and the next question is about what comes after. -/
theorem ask_line (hbacked : i.buffer.Backed i.memory) (hfresh : i.framer.IsFresh)
    (hends : i.framer.terminator.Ends body ending)
    (hcontent : i.content = body ++ ending ++ later) :
    ∃ next, i.ask = ((i.framer.verdict ⟨body, ending⟩).map some, next) ∧
      next.framer = i.framer ∧ next.buffer.Backed next.memory ∧ next.content = later := by
  obtain ⟨past, hpast⟩ : ∃ past : Buffer, past =
      { i.buffer with reader := i.buffer.reader + (body.length + ending.length) } := ⟨_, rfl⟩
  have hcontent : i.buffer.content i.memory = body ++ ending ++ later := hcontent
  have hused := LineFramer.readable_of_content hbacked hcontent
  have hbacked' : past.Backed i.memory := hpast ▸ (hbacked.advanceReader hused).backed
  -- Whether the line is dropped or taken, the reader ends behind its ending.
  have hlater : past.content i.memory = later := by
    rw [hpast, Buffer.content_advance hbacked.fits, hcontent, List.drop_left' List.length_append]
  by_cases hlong : i.framer.maxLength < body.length
  · have hdecode := LineFramer.decode_dropped hbacked hends hcontent hfresh.discarding hlong
    refine ⟨⟨i.framer, past, i.memory⟩, ?_, rfl, hbacked', hlater⟩
    rw [ask_of_decode hdecode, LineFramer.verdict_long hlong, hpast]
    rfl
  · rcases LineFramer.decode_taken hbacked hends hcontent hfresh.discarding
      (Nat.le_of_not_lt hlong) with
      ⟨line, -, bytes, -, hdecode, -, htrim⟩
    refine ⟨⟨i.framer, past, (i.memory.alloc bytes).2⟩, ?_, rfl,
      hbacked'.becomes (Memory.becomes_alloc [] _ bytes),
      (Buffer.content_alloc hbacked'.fits bytes).trans hlater⟩
    rw [ask_of_decode hdecode, LineFramer.verdict_short hlong, ← htrim, hpast]
    rfl

/-- Where there is no line ending there is no line. What there is stays, or is passed over if
    it is longer than a line may be. -/
theorem ask_rest (hbacked : i.buffer.Backed i.memory) (hfresh : i.framer.IsFresh)
    (hrest : i.framer.terminator.Unended i.content) :
    ∃ next, i.ask = (.ok none, next) ∧ next.framer.fresh = i.framer.fresh ∧
      next.framer.Awaits next.content i.content := by
  have hlength : i.content.length = i.buffer.readableBytes := hbacked.length_content
  by_cases hlong : i.framer.maxLength < i.content.length
  · have hdecode := LineFramer.decode_begun hrest hfresh.discarding (hlength ▸ hlong)
    have hempty : ({ i.buffer with reader := i.buffer.writer } : Buffer).content i.memory = [] := by
      rw [Buffer.content, Buffer.peek, Buffer.readableBytes, Nat.sub_self, Memory.load,
        Region.clip_zero]
      rfl
    rw [← hlength] at hdecode
    exact ⟨_, ask_of_decode hdecode, rfl,
      Or.inr ⟨hlong, LineFramer.isPassing_passing _ _, hempty⟩⟩
  · have hshort := Nat.le_of_not_lt hlong
    have hdecode := LineFramer.decode_waiting hrest hfresh.discarding (hlength ▸ hshort)
    exact ⟨_, ask_of_decode hdecode, rfl, Or.inl ⟨hshort, hfresh, rfl⟩⟩

/-- The lines of a split are dealt with one after the other. -/
theorem drain_of_splits {f : LineFramer} {bytes : Bytes} (hfresh : f.IsFresh)
    (hsplits : f.terminator.Splits bytes lines left) {limit : Nat} (hframer : i.framer = f)
    (hbacked : i.buffer.Backed i.memory) (hcontent : i.content = bytes)
    (hlimit : bytes.length < limit) :
    ∃ i', i.drain limit = some (lines.map f.verdict, i') ∧ i'.framer.fresh = f.fresh ∧
      i'.framer.Awaits i'.content left := by
  induction hsplits generalizing i limit with
  | rest hleft =>
      subst hframer hcontent
      rcases ask_rest hbacked hfresh hleft with ⟨next, hask, hsame, hawaits⟩
      cases limit with
      | zero => exact absurd hlimit (Nat.not_lt_zero _)
      | succ limit => exact ⟨next, by rw [drain, hask]; rfl, hsame, hawaits⟩
  | @line body ending later left lines hends hlater ih =>
      subst hframer
      rcases ask_line hbacked hfresh hends hcontent with
        ⟨next, hask, hnext, hbacked', hcontent'⟩
      cases limit with
      | zero => exact absurd hlimit (Nat.not_lt_zero _)
      | succ limit =>
          -- The ending is used up with the line, so the limit is enough for the others.
          have hshorter : later.length < limit := by
            have hpos := hends.length_pos
            rw [List.length_append, List.length_append] at hlimit
            omega
          rcases ih hnext hbacked' hcontent' hshorter with ⟨i', hdrain, hsame, hawaits⟩
          refine ⟨i', ?_, hsame, hawaits⟩
          rw [drain_of_verdict hask, hdrain]
          rfl

/-- A framer that has passed over nothing, in front of all of a byte string: it reports on the
    lines of the one split of the string, and is done after no more questions than there are
    bytes, and one. What is left after the last line ending stays unread unless it is longer
    than a line may be, and is passed over without a report if it is. -/
theorem drain_splits (hbacked : i.buffer.Backed i.memory) (hfresh : i.framer.IsFresh) :
    ∃ lines left,
      (∀ lines' left', i.framer.terminator.Splits i.content lines' left' ↔
        lines' = lines ∧ left' = left) ∧
      ∀ limit, i.content.length < limit →
        ∃ i', i.drain limit = some (lines.map i.framer.verdict, i') ∧
          i'.content = (if i.framer.maxLength < left.length then [] else left) ∧
          i'.framer = { i.framer with
            discarding := decide (i.framer.maxLength < left.length)
            discardedBytes := if i.framer.maxLength < left.length then left.length else 0 } := by
  obtain ⟨lines, left, hcut⟩ : ∃ lines left,
      i.framer.terminator.cut [] i.content = (lines, left) := ⟨_, _, rfl⟩
  refine ⟨lines, left, fun lines' left' => ?_, fun limit hlimit => ?_⟩
  · rw [splits_iff, hcut, Prod.mk.injEq, eq_comm, eq_comm (a := left)]
  · rcases drain_of_splits hfresh (splits_iff.mpr hcut) rfl hbacked rfl hlimit with
      ⟨i', hdrain, hsame, hawaits⟩
    have hmax : i'.framer.fresh.maxLength = i.framer.fresh.maxLength := by rw [hsame]
    rcases hawaits.discarded_eq with ⟨hdiscarding, hbytes, hcontent⟩
    change i'.framer.maxLength = i.framer.maxLength at hmax
    rw [hmax] at hdiscarding hbytes hcontent
    exact ⟨i', hdrain, hcontent, LineFramer.eq_of_fresh hsame hdiscarding hbytes⟩

/-- A short line, a line that is too long, and a line that does not end. -/
def sampleText : Bytes :=
  [0x61, 0x62, 0x0d, 0x0a, 0x74, 0x6f, 0x6f, 0x6c, 0x6f, 0x6e, 0x67, 0x0a, 0x78, 0x79]

/-- A framer that reports lines longer than four bytes, in front of all of a text. -/
def sampleWhole : Intake :=
  let (buffer, memory) := Buffer.wrap {} .big sampleText
  { framer := { maxLength := 4, strip := true, terminator := .both }, buffer, memory }

theorem sampleWhole_backed : sampleWhole.buffer.Backed sampleWhole.memory :=
  (Buffer.Made.wrap {} .big sampleText).1

theorem drain_splits_sampleWhole :
    ∃ i', sampleWhole.drain 15 =
        some ([.ok [0x61, 0x62], .error (.decode (.overLong 7 4))], i') ∧
      i'.content = [0x78, 0x79] ∧ i'.framer = sampleWhole.framer := by
  rcases drain_splits sampleWhole_backed ⟨rfl, rfl⟩ with ⟨lines, left, hunique, hdrain⟩
  have hsplits : sampleWhole.framer.terminator.Splits sampleWhole.content
      [⟨[0x61, 0x62], [0x0d, 0x0a]⟩, ⟨[0x74, 0x6f, 0x6f, 0x6c, 0x6f, 0x6e, 0x67], [0x0a]⟩]
      [0x78, 0x79] := splits_iff.mpr (by decide)
  rcases (hunique _ _).mp hsplits with ⟨rfl, rfl⟩
  exact hdrain 15 (by decide)

end Conduit.Intake
