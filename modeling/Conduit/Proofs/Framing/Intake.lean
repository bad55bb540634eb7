import Conduit.Proofs.Framing.Attempt
import Conduit.Proofs.Framing.Chunks

/-!
# Taking Lines from a Stream

A line framer and the buffer in front of it, while a stream of bytes comes in. The
bytes come in chunks. Each chunk is appended to the buffer, and then the framer is
asked for lines until it has none, whatever it reports in between. Now and then the
bytes that were read are discarded.

`run_eq` says what such an intake comes to: the framer gives its verdict on each line
of the chunks, once, in order, and then stands where the last line leaves it. The
memory behind the buffer, its growth and its compaction have no part in it.

How the bytes are cut into chunks should have no part in it either, and for a framer
that knows line feeds only it has none (`run_newline`). For the other framers that is
so exactly if no line ending is severed (`run_whole_iff`), and `run_severed` is a case
in which one is.

## Main definitions

* `Intake`: A framer and the buffer in front of it.
* `Intake.drain`: Taking lines until there is none.
* `Feeding`: What happens to a buffer between two drains.
* `Intake.run`: One feeding after the other.

## Theorems

* `ask_waited`, `ask_took`, `drain_of_verdict`: One question for a line.
* `drain_eq`: What is taken are the lines that end in the buffer.
* `Stands.terminator_eq`, `Stands.maxLength_eq`, `Stands.verdict_eq`, `Stands.passed`,
  `Stands.unique`, `stands_start`: Where an intake stands.
* `feed_chunk`, `feed_compact`: What comes of a chunk, and of a compaction.
* `run_eq`: What a run comes to.
* `verdict_ne`: The verdict on a long line tells its length.
* `run_whole`: A run and the run of the whole string.
* `run_newline`: Chunks make no difference to a framer for line feeds.
* `run_whole_iff`: Where they make none to the other framers.
* `sample_sound`, `sample_content`, `run_newline_sample`, `run_whole_iff_sample`: A long line
  in chunks, and an ending that is severed.
-/

namespace Conduit

open Terminator

/-- A line framer and the buffer in front of it. -/
structure Intake where
  framer : LineFramer
  buffer : Buffer
  memory : Memory
  deriving Repr

/-- What happens to the buffer of an intake. -/
inductive Feeding where
  /-- Bytes are appended, and lines are taken until there is none. -/
  | chunk (bytes : Bytes)
  /-- The bytes that were read are discarded. -/
  | compact
  deriving Repr

/-- The chunks among some feedings. -/
def Feeding.chunks : List Feeding → List Bytes
  | [] => []
  | .chunk bytes :: feedings => bytes :: chunks feedings
  | .compact :: feedings => chunks feedings

namespace Intake

/-- What has been reported, line by line, and the intake after it. -/
abbrev Report := List (Except Error Bytes) × Intake

/-- The bytes that can be read. -/
def content (i : Intake) : Bytes := i.buffer.content i.memory

/-- Asks for a line, once. -/
def ask (i : Intake) : Except Error (Option Bytes) × Intake :=
  let a := i.framer.decode i.buffer i.memory
  (a.found, ⟨a.framer, a.buffer, a.memory⟩)

/-- Asks for lines until there is none. There is no report if `limit` questions are not
    enough for that. -/
def drain : (limit : Nat) → Intake → Option Report
  | 0, _ => none
  | limit + 1, i =>
    match i.ask with
    | (.ok none, next) => some ([], next)
    | (.ok (some line), next) => (drain limit next).map fun r => (.ok line :: r.1, r.2)
    | (.error cause, next) => (drain limit next).map fun r => (.error cause :: r.1, r.2)

/-- One feeding. There is no report of bytes that do not fit. -/
def feed (i : Intake) : Feeding → Option Report
  | .chunk bytes =>
    let (n, buffer, memory) := i.buffer.write i.memory bytes
    if n = bytes.length then drain (buffer.readableBytes + 1) ⟨i.framer, buffer, memory⟩ else none
  | .compact =>
    let (buffer, memory) := i.buffer.discardReadBytes i.memory
    some ([], ⟨i.framer, buffer, memory⟩)

/-- One feeding after the other. -/
def run : List Feeding → Intake → Option Report
  | [], i => some ([], i)
  | feeding :: feedings, i =>
    (i.feed feeding).bind fun here =>
      (run feedings here.2).map fun later => (here.1 ++ later.1, later.2)

/-- The intake of a framer `f` stands after `left` of a line, in good order. -/
structure Stands (i : Intake) (f : LineFramer) (left : Bytes) : Prop where
  sound : i.buffer.Sound i.memory
  fresh : i.framer.fresh = f.fresh
  awaits : i.framer.Awaits i.content left
  isOpen : f.terminator.Open left

variable {i : Intake} {f : LineFramer} {left : Bytes}

/-! ### Draining -/

/-- Where no line ends, there is none, and the intake stands after what there is. -/
theorem ask_waited {begun : Bytes} (hsound : i.buffer.Sound i.memory)
    (hpassed : i.framer.Passed begun) (hend : i.framer.terminator.firstEnd i.content = none)
    (hopen : i.framer.terminator.Open (begun ++ i.content)) :
    ∃ next, i.ask = (.ok none, next) ∧ next.Stands i.framer (begun ++ i.content) ∧
      next.buffer.maxWritableBytes = i.buffer.maxWritableBytes := by
  have hwaited := LineFramer.decode_waited hsound hpassed hend
  refine ⟨⟨(i.framer.decode i.buffer i.memory).framer, (i.framer.decode i.buffer i.memory).buffer,
    i.memory⟩, ?_, ⟨hwaited.sound, hwaited.fresh, hwaited.awaits, hopen⟩, ?_⟩
  · rw [ask, LineFramer.Attempt.found, hwaited.result, hwaited.memory]
    rfl
  · change (i.framer.decode i.buffer i.memory).buffer.maxWritableBytes = _
    rcases hwaited.buffer with hbuffer | hbuffer
    · rw [hbuffer]
    · rw [hbuffer]
      rfl

/-- Where a line ends, the framer gives its verdict, and goes on with what comes after. -/
theorem ask_took {begun body ending rest : Bytes} (hsound : i.buffer.Sound i.memory)
    (hpassed : i.framer.Passed begun) (hcontent : i.content = body ++ ending ++ rest)
    (hend : i.framer.terminator.firstEnd i.content = some (body.length, ending.length)) :
    ∃ next, i.ask = ((i.framer.verdict ⟨begun ++ body, ending⟩).map some, next) ∧
      next.framer = i.framer.fresh ∧ next.buffer.Sound next.memory ∧ next.content = rest ∧
      next.buffer.maxWritableBytes = i.buffer.maxWritableBytes := by
  have htook := LineFramer.decode_took hsound hpassed hcontent hend
  refine ⟨_, Prod.ext htook.found rfl, htook.framer, htook.sound, htook.content.trans ?_, ?_⟩
  · change List.drop _ i.content = _
    rw [hcontent, List.drop_left' (by rw [List.length_append])]
  · change (i.framer.decode i.buffer i.memory).buffer.maxWritableBytes = _
    rw [htook.buffer]
    rfl

theorem drain_of_verdict {limit : Nat} {next : Intake} {l : Line}
    (h : i.ask = ((f.verdict l).map some, next)) :
    drain (limit + 1) i = (drain limit next).map fun r => (f.verdict l :: r.1, r.2) := by
  rw [drain, h]
  cases f.verdict l with
  | error cause => rfl
  | ok line => rfl

/-- What is taken are the lines that end in the buffer. -/
theorem drain_eq {limit : Nat} {begun : Bytes} (hsound : i.buffer.Sound i.memory)
    (hpassed : i.framer.Passed begun) (hopen : i.framer.terminator.Open begun)
    (hparted : ¬ i.framer.terminator.Parted begun i.content) (hlimit : i.content.length < limit) :
    ∃ i', i.drain limit =
        some ((i.framer.terminator.cut begun i.content).1.map i.framer.verdict, i') ∧
      i'.Stands i.framer (i.framer.terminator.cut begun i.content).2 ∧
      i'.buffer.maxWritableBytes = i.buffer.maxWritableBytes := by
  induction limit generalizing i begun with
  | zero => exact absurd hlimit (Nat.not_lt_zero _)
  | succ limit ih =>
      have hleft := open_cut hopen i.content
      rcases firstEnd_cut hparted with
        ⟨hend, hcut⟩ | ⟨body, ending, rest, hcontent, hne, hend, hcut⟩
      · rw [hcut] at hleft ⊢
        rcases ask_waited hsound hpassed hend hleft with ⟨next, hask, hstands, hroom⟩
        exact ⟨next, by rw [drain, hask]; rfl, hstands, hroom⟩
      · rcases ask_took hsound hpassed hcontent hend with
          ⟨next, hask, hframer, hsound', hrest, hroom⟩
        -- Something is used up with every line, so the limit is enough.
        have hshorter : next.content.length < limit := by
          have hpos := List.length_pos_iff.mpr hne
          rw [hcontent, List.length_append, List.length_append] at hlimit
          rw [hrest]
          omega
        -- The next question is about the front of a line.
        have hpassed' : next.framer.Passed [] := Or.inl ⟨rfl, hframer ▸ i.framer.isFresh_fresh⟩
        rcases ih hsound' hpassed' (open_nil _) (not_parted_nil _ _) hshorter with
          ⟨i', hdrain, hstands, hroom'⟩
        rw [hframer, hrest] at hdrain hstands
        rw [hcut]
        refine ⟨i', ?_, ⟨hstands.sound, hstands.fresh, hstands.awaits, hstands.isOpen⟩,
          hroom'.trans hroom⟩
        rw [drain_of_verdict hask, hdrain]
        rfl

/-! ### Feeding -/

theorem Stands.terminator_eq (h : i.Stands f left) : i.framer.terminator = f.terminator := by
  have hsame := congrArg LineFramer.terminator h.fresh
  exact hsame

theorem Stands.maxLength_eq (h : i.Stands f left) : i.framer.maxLength = f.maxLength := by
  have hsame := congrArg LineFramer.maxLength h.fresh
  exact hsame

theorem Stands.verdict_eq (h : i.Stands f left) : i.framer.verdict = f.verdict := by
  have hsame := congrArg LineFramer.verdict h.fresh
  exact hsame

/-- Where an intake stands, all that a framer has to know is in what has been passed over and
    in what can still be read. -/
theorem Stands.passed (h : i.Stands f left) (bytes : Bytes) :
    ∃ begun, i.framer.Passed begun ∧ f.terminator.Open begun ∧
      ¬ f.terminator.Parted begun (i.content ++ bytes) ∧
      f.terminator.cut begun (i.content ++ bytes) =
        f.terminator.cut (f.terminator.remember f.maxLength left bytes) bytes := by
  rcases h.awaits with ⟨hshort, hfresh, hcontent⟩ | ⟨hlong, hpassed, hcontent⟩
  · rw [h.maxLength_eq] at hshort
    -- What there is of the line can still be read, and is looked at again.
    have hknown : ¬ f.terminator.Severed f.maxLength left bytes := fun hsevered =>
      Nat.not_lt.mpr hshort hsevered.1
    refine ⟨[], Or.inl ⟨rfl, hfresh⟩, open_nil _, not_parted_nil _ _, ?_⟩
    rw [hcontent, h.isOpen.cut_append, remember_eq_self hknown]
  · -- It was passed over, and if it ended in a carriage return nobody knows that any more.
    have hlong' : f.maxLength < left.length := h.maxLength_eq ▸ hlong
    have hlen := length_remember f.terminator f.maxLength left bytes
    rw [hcontent, List.nil_append]
    exact ⟨f.terminator.remember f.maxLength left bytes,
      Or.inr ⟨by rwa [hlen], by rw [hlen]; exact hpassed⟩, h.isOpen.remember bytes,
      not_parted_remember hlong' bytes, rfl⟩

/-- A chunk that fits ends the lines that the framer knows, and the intake stands after what
    is left. -/
theorem feed_chunk (h : i.Stands f left) {bytes : Bytes}
    (hroom : bytes.length ≤ i.buffer.maxWritableBytes) :
    let known := f.terminator.cut (f.terminator.remember f.maxLength left bytes) bytes
    ∃ i', i.feed (.chunk bytes) = some (known.1.map f.verdict, i') ∧ i'.Stands f known.2 ∧
      i'.buffer.maxWritableBytes = i.buffer.maxWritableBytes - bytes.length := by
  intro known
  rcases h.sound.write hroom with ⟨rs, m', hwrite, hsound, hcontent⟩
  rcases h.passed bytes with ⟨begun, hpassed, hopen, hparted, hcut⟩
  -- The intake between the two is named: the chunk is there, and no question has been asked.
  obtain ⟨j, hj⟩ : ∃ j : Intake, j =
      ⟨i.framer, { i.buffer with regions := rs, writer := i.buffer.writer + bytes.length }, m'⟩ :=
    ⟨_, rfl⟩
  have hjcontent : j.content = i.content ++ bytes := by
    rw [hj]
    exact hcontent
  have hjframer : j.framer = i.framer := by rw [hj]
  have hjsound : j.buffer.Sound j.memory := by
    rw [hj]
    exact hsound
  have hlimit : j.content.length < j.buffer.readableBytes + 1 :=
    Nat.lt_succ_of_le (Nat.le_of_eq hjsound.length_content)
  rw [← h.terminator_eq, ← hjframer] at hopen hparted
  rw [← hjcontent] at hparted
  rw [← hjframer] at hpassed
  rcases drain_eq hjsound hpassed hopen hparted hlimit with ⟨i', hdrain, hstands, hroom'⟩
  rw [hjframer, h.verdict_eq, h.terminator_eq, hjcontent, hcut] at hdrain
  rw [hjframer, h.terminator_eq, hjcontent, hcut] at hstands
  refine ⟨i', ?_, ⟨hstands.sound, hstands.fresh.trans h.fresh, hstands.awaits,
    h.terminator_eq ▸ hstands.isOpen⟩, ?_⟩
  · rw [feed, hwrite]
    dsimp only
    rw [if_pos rfl, ← hdrain, hj]
  · rw [hroom', hj, Buffer.maxWritableBytes, Buffer.maxWritableBytes]
    exact Nat.sub_add_eq _ _ _

/-- Discarding what was read changes nothing that a framer knows. -/
theorem feed_compact (h : i.Stands f left) :
    ∃ i', i.feed .compact = some ([], i') ∧ i'.Stands f left ∧
      i.buffer.maxWritableBytes ≤ i'.buffer.maxWritableBytes := by
  rcases h.sound.discardReadBytes with ⟨b', m', hdiscard, hsound, hcontent, -, hwriter, hmax, -⟩
  refine ⟨⟨i.framer, b', m'⟩, ?_, ⟨hsound, h.fresh, ?_, h.isOpen⟩, ?_⟩
  · rw [feed, hdiscard]
  · change LineFramer.Awaits i.framer (b'.content m') left
    rw [hcontent]
    exact h.awaits
  · change i.buffer.maxWritableBytes ≤ b'.maxWritableBytes
    rw [Buffer.maxWritableBytes, Buffer.maxWritableBytes, hwriter, hmax, Buffer.readableBytes]
    omega

/-- What a run comes to: the framer's verdict on each line that it knows. -/
theorem run_eq (h : i.Stands f left) (feedings : List Feeding)
    (hroom : (Feeding.chunks feedings).flatten.length ≤ i.buffer.maxWritableBytes) :
    let known := f.terminator.cutChunks f.maxLength left (Feeding.chunks feedings)
    ∃ i', i.run feedings = some (known.1.map f.verdict, i') ∧ i'.Stands f known.2 := by
  induction feedings generalizing i left with
  | nil => exact ⟨i, rfl, h⟩
  | cons feeding feedings ih =>
      cases feeding with
      | chunk bytes =>
          rw [Feeding.chunks, List.flatten_cons, List.length_append] at hroom
          rcases feed_chunk h (Nat.le_trans (Nat.le_add_right _ _) hroom) with
            ⟨i', hfeed, hstands, hleft⟩
          -- The chunk has used up as much room as it is long, and there is enough for the rest.
          have hroom' : (Feeding.chunks feedings).flatten.length ≤ i'.buffer.maxWritableBytes := by
            rw [hleft]
            omega
          rcases ih hstands hroom' with ⟨i'', hrun, hlater⟩
          refine ⟨i'', ?_, hlater⟩
          rw [run, hfeed, Option.bind_some, hrun, Option.map_some, Feeding.chunks, cutChunks,
            List.map_append]
      | compact =>
          rcases feed_compact h with ⟨i', hfeed, hstands, hleft⟩
          rcases ih hstands (Nat.le_trans hroom hleft) with ⟨i'', hrun, hlater⟩
          refine ⟨i'', ?_, hlater⟩
          rw [run, hfeed, Option.bind_some, hrun, Option.map_some, List.nil_append]
          rfl

/-! ### Whole strings -/

/-- Where it stands, a framer and the bytes before it are determined. -/
theorem Stands.unique {i' : Intake} (h : i.Stands f left) (h' : i'.Stands f left) :
    i.framer = i'.framer ∧ i.content = i'.content := by
  have hsame := h.fresh.trans h'.fresh.symm
  rcases h.awaits.discarded_eq with ⟨hdiscarding, hbytes, hcontent⟩
  rcases h'.awaits.discarded_eq with ⟨hdiscarding', hbytes', hcontent'⟩
  rw [h.maxLength_eq] at hdiscarding hbytes hcontent
  rw [h'.maxLength_eq] at hdiscarding' hbytes' hcontent'
  refine ⟨?_, hcontent.trans hcontent'.symm⟩
  exact LineFramer.eq_of_fresh hsame (hdiscarding.trans hdiscarding'.symm)
    (hbytes.trans hbytes'.symm)

/-- An intake into which nothing has come stands after nothing. -/
theorem stands_start (hfresh : i.framer.IsFresh) (hsound : i.buffer.Sound i.memory)
    (hempty : i.content = []) : i.Stands i.framer [] :=
  ⟨hsound, rfl, Or.inl ⟨Nat.zero_le _, hfresh, hempty⟩, open_nil _⟩

theorem verdict_ne {l l' : Line} (hlong : f.maxLength ≤ l.body.length)
    (hlonger : l.body.length < l'.body.length) : f.verdict l ≠ f.verdict l' := by
  rw [LineFramer.verdict_long (Nat.lt_of_le_of_lt hlong hlonger)]
  by_cases h : f.maxLength < l.body.length
  · -- Both are reported, with their lengths.
    rw [LineFramer.verdict_long h]
    intro hsame
    injection hsame with hsame
    injection hsame with hsame
    injection hsame with hsame
    exact Nat.ne_of_lt hlonger hsame
  · rw [LineFramer.verdict_short h]
    exact fun hsame => nomatch hsame

/-- A run and the run of the whole string, in which nothing can be severed. -/
theorem run_whole (hfresh : i.framer.IsFresh) (hsound : i.buffer.Sound i.memory)
    (hempty : i.content = []) (feedings : List Feeding)
    (hroom : (Feeding.chunks feedings).flatten.length ≤ i.buffer.maxWritableBytes) :
    let known := i.framer.terminator.cutChunks i.framer.maxLength [] (Feeding.chunks feedings)
    let lines := i.framer.terminator.cut [] (Feeding.chunks feedings).flatten
    ∃ parts whole, i.run feedings = some (known.1.map i.framer.verdict, parts) ∧
      i.run [.chunk (Feeding.chunks feedings).flatten] =
        some (lines.1.map i.framer.verdict, whole) ∧
      parts.Stands i.framer known.2 ∧ whole.Stands i.framer lines.2 := by
  intro known lines
  have hflatten : (Feeding.chunks [.chunk (Feeding.chunks feedings).flatten]).flatten =
      (Feeding.chunks feedings).flatten := by
    simp [Feeding.chunks]
  have hstart := stands_start hfresh hsound hempty
  rcases run_eq hstart feedings hroom with ⟨parts, hparts, hpartsStand⟩
  rcases run_eq hstart [.chunk (Feeding.chunks feedings).flatten] (by rwa [hflatten]) with
    ⟨whole, hwhole, hwholeStands⟩
  rw [Feeding.chunks, Feeding.chunks, cutChunks_intact (intact_whole _ _ _),
    List.flatten_singleton] at hwhole hwholeStands
  exact ⟨parts, whole, hparts, hwhole, hpartsStand, hwholeStands⟩

/-- What a framer that knows line feeds only reports, and where it stands after that, does
    not depend on the chunks in which a byte string comes, nor on what is discarded in
    between: it is a verdict on each line of the string. -/
theorem run_newline (hframer : i.framer.terminator = .newline)
    (hfresh : i.framer.IsFresh) (hsound : i.buffer.Sound i.memory)
    (hempty : i.content = []) (feedings : List Feeding)
    (hroom : (Feeding.chunks feedings).flatten.length ≤ i.buffer.maxWritableBytes) :
    ∃ report parts whole, i.run feedings = some (report, parts) ∧
      i.run [.chunk (Feeding.chunks feedings).flatten] = some (report, whole) ∧
      parts.framer = whole.framer ∧ parts.content = whole.content ∧
      report = (newline.cut [] (Feeding.chunks feedings).flatten).1.map i.framer.verdict := by
  rcases run_whole hfresh hsound hempty feedings hroom with
    ⟨parts, whole, hparts, hwhole, hpartsStand, hwholeStands⟩
  rw [hframer] at hparts hwhole hpartsStand hwholeStands
  rw [cutChunks_intact (intact_newline _ _ _)] at hparts hpartsStand
  rcases hpartsStand.unique hwholeStands with ⟨hsame, hleft⟩
  exact ⟨_, parts, whole, hparts, hwhole, hsame, hleft, rfl⟩

/-- A framer that reports lines longer than four bytes, in front of a small buffer. -/
def sample (terminator : Terminator) : Intake :=
  let (buffer, memory) := Buffer.growable {} .big 8
  { framer := { maxLength := 4, strip := true, terminator }, buffer, memory }

theorem sample_sound (t : Terminator) : (sample t).buffer.Sound (sample t).memory :=
  (Buffer.Sound.growable {} .big 8).1

theorem sample_content (t : Terminator) : (sample t).content = [] :=
  (Buffer.Sound.growable {} .big 8).2

theorem run_newline_sample :
    ∃ report parts whole,
      (sample .newline).run [.chunk [0x74, 0x6f, 0x6f, 0x6c, 0x6f], .compact,
        .chunk [0x6e, 0x67, 0x0a, 0x6f], .chunk [0x6b, 0x0a, 0x2e]] = some (report, parts) ∧
      (sample .newline).run [.chunk [0x74, 0x6f, 0x6f, 0x6c, 0x6f, 0x6e, 0x67, 0x0a, 0x6f, 0x6b,
        0x0a, 0x2e]] = some (report, whole) ∧
      parts.framer = whole.framer ∧ parts.content = whole.content ∧
      report = [.error (.decode (.overLong 7 4)), .ok [0x6f, 0x6b]] :=
  run_newline rfl ⟨rfl, rfl⟩ (sample_sound .newline) (sample_content .newline)
    [.chunk [0x74, 0x6f, 0x6f, 0x6c, 0x6f], .compact, .chunk [0x6e, 0x67, 0x0a, 0x6f],
      .chunk [0x6b, 0x0a, 0x2e]] (by decide)

/-- Whatever a framer takes for the end of a line: it reports the same of a byte string in
    chunks as of the whole string exactly if no line ending is severed, and then stands where
    it would stand after the whole string. -/
theorem run_whole_iff (hfresh : i.framer.IsFresh) (hsound : i.buffer.Sound i.memory)
    (hempty : i.content = []) (feedings : List Feeding)
    (hroom : (Feeding.chunks feedings).flatten.length ≤ i.buffer.maxWritableBytes) :
    ∃ reportParts parts reportWhole whole, i.run feedings = some (reportParts, parts) ∧
      i.run [.chunk (Feeding.chunks feedings).flatten] = some (reportWhole, whole) ∧
      (reportParts = reportWhole ↔
        i.framer.terminator.Intact i.framer.maxLength [] (Feeding.chunks feedings)) ∧
      (i.framer.terminator.Intact i.framer.maxLength [] (Feeding.chunks feedings) →
        parts.framer = whole.framer ∧ parts.content = whole.content) := by
  rcases run_whole hfresh hsound hempty feedings hroom with
    ⟨parts, whole, hparts, hwhole, hpartsStand, hwholeStands⟩
  refine ⟨_, parts, _, whole, hparts, hwhole, ?_, fun hintact => ?_⟩
  · exact cutChunks_intact_iff (fun _ _ => verdict_ne) [] (Feeding.chunks feedings)
  · rw [cutChunks_intact hintact] at hpartsStand
    exact hpartsStand.unique hwholeStands

theorem run_whole_iff_sample :
    ∃ reportParts parts reportWhole whole,
      (sample .both).run [.chunk [0x31, 0x32, 0x33, 0x0d], .chunk [0x0a]] =
        some (reportParts, parts) ∧
      (sample .both).run [.chunk [0x31, 0x32, 0x33, 0x0d, 0x0a]] = some (reportWhole, whole) ∧
      (reportParts = reportWhole ↔ both.Intact 4 [] [[0x31, 0x32, 0x33, 0x0d], [0x0a]]) ∧
      (both.Intact 4 [] [[0x31, 0x32, 0x33, 0x0d], [0x0a]] →
        parts.framer = whole.framer ∧ parts.content = whole.content) :=
  run_whole_iff ⟨rfl, rfl⟩ (sample_sound .both) (sample_content .both)
    [.chunk [0x31, 0x32, 0x33, 0x0d], .chunk [0x0a]] (by decide)

/-- A line of just the longest length allowed, whose ending comes in two chunks, is dropped.
    In one chunk it is taken. -/
theorem run_severed :
    ((sample .both).run [.chunk [0x31, 0x32, 0x33, 0x34, 0x0d], .chunk [0x0a]]).map Prod.fst =
      some [.error (.decode (.overLong 5 4))] ∧
    ((sample .both).run [.chunk [0x31, 0x32, 0x33, 0x34, 0x0d, 0x0a]]).map Prod.fst =
      some [.ok [0x31, 0x32, 0x33, 0x34]] :=
  ⟨rfl, rfl⟩

end Intake

end Conduit
