import Conduit.Proofs.Buffer.Bounds
import Conduit.Proofs.Framing.Attempt
import Conduit.Proofs.Framing.Split

/-!
# The Exits of an Attempt

An attempt to take a line may end in six ways. There is the end of a line in sight or
not, and the framer is passing over a line or not; and where it is not, the length of the
line makes a difference. All of them move the reader by what has been found, and copy no
more than that.

Moving the reader and copying are calls that may fail, and an attempt would hand such a
failure on as if it were its own. It never comes to that. An end that is found in the
readable bytes lies between the cursors, together with its ending, so the reader can be
moved behind it, and what is in front of it can be copied. Of the buffer this needs only
that it is backed. Its regions may overlap, and may be shared with any other buffer.

## Main definitions

* `LineFramer.Exit`: A way for an attempt to end.

## Theorems

* `Terminator.unended_or_ends`: There is a first line ending, or there is none.
* `firstEnd_content`, `readable_of_content`: An ending that is in sight lies between the
  cursors.
* `passTo_end`: So the reader can be moved behind it.
* `decode_ended`, `decode_dropped`, `decode_taken`: Attempts with the end of a line in sight.
* `decode_passing`, `decode_begun`, `decode_waiting`: Attempts without.
* `decode_exit`: There is no other way.
-/

namespace Conduit

namespace Terminator

/-- In a byte string there is a first line ending, or there is none. -/
theorem unended_or_ends (t : Terminator) (bytes : Bytes) :
    t.Unended bytes ∨
      ∃ body ending later, t.Ends body ending ∧ bytes = body ++ ending ++ later := by
  obtain ⟨lines, left, hcut⟩ : ∃ lines left, t.cut [] bytes = (lines, left) := ⟨_, _, rfl⟩
  cases splits_iff.mpr hcut with
  | rest hleft => exact Or.inl hleft
  | line hends _ => exact Or.inr ⟨_, _, _, hends, rfl⟩

end Terminator

namespace LineFramer

/-- The ways in which an attempt on a buffer can end. -/
inductive Exit (f : LineFramer) (b : Buffer) (m : Memory) : Attempt → Prop
  /-- The line that is being passed over has come to its end. -/
  | ended {body ending later : Bytes} (hpassing : f.discarding = true)
      (hends : f.terminator.Ends body ending) (hcontent : b.content m = body ++ ending ++ later) :
      Exit f b m ⟨.error (f.tooLong (f.discardedBytes + body.length)), f.fresh,
        { b with reader := b.reader + (body.length + ending.length) }, m, []⟩
  /-- A whole line is there, and it is too long. -/
  | dropped {body ending later : Bytes} (hidle : f.discarding = false)
      (hends : f.terminator.Ends body ending) (hcontent : b.content m = body ++ ending ++ later)
      (hlong : f.maxLength < body.length) :
      Exit f b m ⟨.error (f.tooLong body.length), f,
        { b with reader := b.reader + (body.length + ending.length) }, m, []⟩
  /-- A whole line is there, and it is copied. -/
  | taken {body ending later : Bytes} {line rest : Buffer} {bytes : Array UInt8} {length : Nat}
      (hidle : f.discarding = false) (hends : f.terminator.Ends body ending)
      (hcontent : b.content m = body ++ ending ++ later) (hshort : body.length ≤ f.maxLength)
      (hread : b.readBytes m length = .ok (line, rest, (m.alloc bytes).2))
      (hline : line.content (m.alloc bytes).2 = f.trim ⟨body, ending⟩) :
      Exit f b m ⟨.ok (some line), f,
        { b with reader := b.reader + (body.length + ending.length) }, (m.alloc bytes).2, []⟩
  /-- More has come of the line that is being passed over, but not its end. -/
  | passing (hpassing : f.discarding = true)
      (hrest : f.terminator.Unended (b.content m)) :
      Exit f b m ⟨.ok none, f.passing (f.discardedBytes + b.readableBytes),
        { b with reader := b.writer }, m, []⟩
  /-- There is more of a line than a line may have. -/
  | begun (hidle : f.discarding = false) (hrest : f.terminator.Unended (b.content m))
      (hlong : f.maxLength < b.readableBytes) :
      Exit f b m ⟨.ok none, f.passing b.readableBytes,
        { b with reader := b.writer }, m, [.overLongLine b.readableBytes]⟩
  /-- There is not yet all of a line, and it is not too long so far. -/
  | waiting (hidle : f.discarding = false) (hrest : f.terminator.Unended (b.content m))
      (hshort : b.readableBytes ≤ f.maxLength) :
      Exit f b m ⟨.ok none, f, b, m, []⟩

variable {f : LineFramer} {b : Buffer} {m : Memory} {body ending later : Bytes}

/-! ### The end of a line in sight -/

section Ends

variable (hbacked : b.Backed m) (hends : f.terminator.Ends body ending)
  (hcontent : b.content m = body ++ ending ++ later)

include hends hcontent in
theorem firstEnd_content :
    f.terminator.firstEnd (b.content m) = some (body.length, ending.length) := by
  rw [hcontent, hends.firstEnd later]

include hbacked hcontent in
/-- A line that is in sight can be read, with its ending. -/
theorem readable_of_content : body.length + ending.length ≤ b.readableBytes := by
  rw [← hbacked.length_content, hcontent, List.length_append, List.length_append]
  exact Nat.le_add_right _ _

include hbacked hcontent in
/-- So the reader can be moved behind it. -/
theorem passTo_end (next : LineFramer) (result : Except Error (Option Buffer)) :
    f.passTo next b m (b.reader + body.length + ending.length) result =
      ⟨result, next, { b with reader := b.reader + (body.length + ending.length) }, m, []⟩ := by
  have hreadable := readable_of_content hbacked hcontent
  have hreader := hbacked.valid.reader_le_writer
  rw [Buffer.readableBytes] at hreadable
  rw [passTo_eq (by omega), Nat.add_assoc]

include hbacked hends hcontent

theorem decode_ended (hpassing : f.discarding = true) :
    f.decode b m = ⟨.error (f.tooLong (f.discardedBytes + body.length)), f.fresh,
      { b with reader := b.reader + (body.length + ending.length) }, m, []⟩ := by
  rw [decode, firstEnd_content hends hcontent, hpassing]
  exact passTo_end hbacked hcontent f.fresh _

theorem decode_dropped (hidle : f.discarding = false) (hlong : f.maxLength < body.length) :
    f.decode b m = ⟨.error (f.tooLong body.length), f,
      { b with reader := b.reader + (body.length + ending.length) }, m, []⟩ := by
  rw [decode, firstEnd_content hends hcontent, hidle]
  change (if _ then _ else _) = _
  rw [if_pos hlong]
  exact passTo_end hbacked hcontent f _

theorem decode_taken (hidle : f.discarding = false) (hshort : body.length ≤ f.maxLength) :
    ∃ line rest bytes length, f.decode b m = ⟨.ok (some line), f,
        { b with reader := b.reader + (body.length + ending.length) }, (m.alloc bytes).2, []⟩ ∧
      b.readBytes m length = .ok (line, rest, (m.alloc bytes).2) ∧
      line.content (m.alloc bytes).2 = f.trim ⟨body, ending⟩ := by
  rcases take_eq (f := f) hbacked.valid hbacked.fits (readable_of_content hbacked hcontent) with
    ⟨line, bytes, htake, hline, -, length, rest, hread⟩
  refine ⟨line, rest, bytes, length, ?_, hread, ?_⟩
  · rw [decode, firstEnd_content hends hcontent, hidle]
    change (if _ then _ else _) = _
    rw [if_neg (Nat.not_lt.mpr hshort), htake]
  · rw [hline, hcontent]
    exact take_trim f ⟨body, ending⟩ later

end Ends

/-! ### No end of a line in sight -/

section Unended

variable (hrest : f.terminator.Unended (b.content m))
include hrest

theorem decode_passing (hpassing : f.discarding = true) :
    f.decode b m = ⟨.ok none, f.passing (f.discardedBytes + b.readableBytes),
      { b with reader := b.writer }, m, []⟩ := by
  rw [decode, hrest.firstEnd, hpassing]
  exact passTo_eq (Nat.le_refl _) _ _

theorem decode_begun (hidle : f.discarding = false) (hlong : f.maxLength < b.readableBytes) :
    f.decode b m = ⟨.ok none, f.passing b.readableBytes,
      { b with reader := b.writer }, m, [.overLongLine b.readableBytes]⟩ := by
  rw [decode, hrest.firstEnd, hidle]
  change (if _ then _ else _) = _
  rw [if_pos hlong]
  exact passTo_eq (Nat.le_refl _) _ _

theorem decode_waiting (hidle : f.discarding = false) (hshort : b.readableBytes ≤ f.maxLength) :
    f.decode b m = ⟨.ok none, f, b, m, []⟩ := by
  rw [decode, hrest.firstEnd, hidle]
  change (if _ then _ else _) = _
  rw [if_neg (Nat.not_lt.mpr hshort)]

end Unended

/-- An attempt on a buffer that is backed ends in one of the six ways. -/
theorem decode_exit (hbacked : b.Backed m) : f.Exit b m (f.decode b m) := by
  -- Is an end in sight, is a line being passed over, and how long is it?
  rcases f.terminator.unended_or_ends (b.content m) with
    hrest | ⟨body, ending, later, hends, hcontent⟩
  · cases hdiscarding : f.discarding with
    | true =>
        rw [decode_passing hrest hdiscarding]
        exact .passing hdiscarding hrest
    | false =>
        by_cases hlong : f.maxLength < b.readableBytes
        · rw [decode_begun hrest hdiscarding hlong]
          exact .begun hdiscarding hrest hlong
        · rw [decode_waiting hrest hdiscarding (Nat.le_of_not_lt hlong)]
          exact .waiting hdiscarding hrest (Nat.le_of_not_lt hlong)
  · cases hdiscarding : f.discarding with
    | true =>
        rw [decode_ended hbacked hends hcontent hdiscarding]
        exact .ended hdiscarding hends hcontent
    | false =>
        by_cases hlong : f.maxLength < body.length
        · rw [decode_dropped hbacked hends hcontent hdiscarding hlong]
          exact .dropped hdiscarding hends hcontent hlong
        · have hshort := Nat.le_of_not_lt hlong
          rcases decode_taken hbacked hends hcontent hdiscarding hshort with
            ⟨line, rest, bytes, length, hdecode, hread, hline⟩
          rw [hdecode]
          exact .taken hdiscarding hends hcontent hshort hread hline

end LineFramer

end Conduit
