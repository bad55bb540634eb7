import Conduit.Framing.Decoder
import Conduit.Proofs.Buffer.Held
import Conduit.Proofs.Framing.Attempt
import Conduit.Proofs.Framing.Chunks

/-!
# A Round of Lines

What `Decoder.decodeAll` makes of lines. A round takes one line after the other, but
it ends at the first line that is too long, for that is a failure. Lines after it
stay where they are until the next round, whether they are complete or not.

So between two rounds there may be more than the first bytes of a line in the buffer.
`Owes` says what there is: complete lines that no round has got to, and then what is
left of the bytes. A round pays off the lines up to and including the first long one,
and bytes that arrive add to what is owed.

## Main definitions

* `LineFramer.fits`: A line is not too long.
* `LineFramer.frame`: A line as a message.
* `LineFramer.Owes`: What a framer has not got to yet.
* `Round`: What a round leaves.

## Theorems

* `endingOf_done`, `endingOf_failed`, `endingOf_ne_panicked`: How a round of lines ends.
* `paid_append`, `filter_paid`: The lines that a round deals with.
* `verdict_of_fits`, `verdict_of_not_fits`: A line that fits, and one that is too long.
* `owes_fresh`, `Awaits.owes`, `Owes.isOpen`, `Owes.length_le`, `Owes.content_eq`: What is
  owed.
* `Owes.append`: Bytes that arrive add to what is owed.
* `Round.of_fresh`, `Round.messages`: What a round has found.
* `decodeUpTo_unreadable`, `decodeUpTo_failed`, `decodeUpTo_stuck`, `decodeUpTo_nothing`,
  `decodeUpTo_message`: A round of any decoder, call by call.
* `lines_attempt`, `attempt_took`, `attempt_waited`: A call that looks for a line.
* `round_unreadable`, `round_waited`, `decodeUpTo_lines`: The rounds of lines.
* `decodeAll_lines`: What a round makes of lines.
-/

namespace Conduit

open Terminator

namespace LineFramer

/-- The line is not too long. -/
def fits (f : LineFramer) (l : Line) : Bool := l.body.length ≤ f.maxLength

/-- A line as a message. -/
def frame (f : LineFramer) (order : ByteOrder) (l : Line) : Message :=
  .buffer (Sealed.ofBytes order (f.trim l))

/-- How a round ends in front of some lines: at the first long one, if there is one. -/
def endingOf (f : LineFramer) (lines : List Line) : Ending :=
  match lines.dropWhile f.fits with
  | [] => .done
  | l :: _ => .failed (f.tooLong l.body.length)

/-- The failure with which a round ends in front of some lines, if it ends with one. -/
def faultsOf (f : LineFramer) (lines : List Line) : List Error :=
  ((lines.dropWhile f.fits).take 1).map fun l => f.tooLong l.body.length

/-- The lines that a round deals with. -/
def paid (f : LineFramer) (lines : List Line) : List Line :=
  lines.takeWhile f.fits ++ (lines.dropWhile f.fits).take 1

/-- With `content` to read, a framer has not got to the lines `pending`, and after them there
    is `left`. -/
def Owes (f : LineFramer) (content : Bytes) (pending : List Line) (left : Bytes) : Prop :=
  ∃ begun, f.Passed begun ∧ f.terminator.Open begun ∧ ¬ f.terminator.Parted begun content ∧
    f.terminator.cut begun content = (pending, left)

variable {f : LineFramer} {content left : Bytes} {pending : List Line}

theorem endingOf_done (h : pending.dropWhile f.fits = []) : f.endingOf pending = .done := by
  rw [endingOf, h]

theorem endingOf_failed {l : Line} {ls : List Line} (h : pending.dropWhile f.fits = l :: ls) :
    f.endingOf pending = .failed (f.tooLong l.body.length) := by
  rw [endingOf, h]

/-- Lines do not make a framer panic. -/
theorem endingOf_ne_panicked (f : LineFramer) (lines : List Line) (cause : Error) :
    f.endingOf lines ≠ .panicked cause := by
  rw [endingOf]
  cases lines.dropWhile f.fits with
  | nil => exact Ending.noConfusion
  | cons l ls => exact Ending.noConfusion

/-- A round leaves the lines that it does not deal with. -/
theorem paid_append (f : LineFramer) (lines : List Line) :
    f.paid lines ++ (lines.dropWhile f.fits).tail = lines := by
  rw [paid, List.append_assoc, ← List.drop_one, List.take_append_drop,
    List.takeWhile_append_dropWhile]

theorem filter_paid (f : LineFramer) (lines : List Line) :
    (f.paid lines).filter f.fits = lines.takeWhile f.fits ∧
      ((f.paid lines).filter (!f.fits ·)).map (fun l => f.tooLong l.body.length) =
        f.faultsOf lines := by
  rw [paid, faultsOf]
  induction lines with
  | nil => exact ⟨rfl, rfl⟩
  | cons l lines ih =>
      cases hfits : f.fits l with
      | true =>
          rw [List.takeWhile_cons_of_pos hfits, List.dropWhile_cons_of_pos hfits,
            List.cons_append, List.filter_cons_of_pos hfits,
            List.filter_cons_of_neg (by simp [hfits])]
          exact ⟨congrArg (l :: ·) ih.1, ih.2⟩
      | false =>
          rw [List.takeWhile_cons_of_neg (by simp [hfits]),
            List.dropWhile_cons_of_neg (by simp [hfits])]
          simp [hfits]

theorem verdict_of_fits {l : Line} (h : f.fits l = true) : f.verdict l = .ok (f.trim l) :=
  verdict_short (Nat.not_lt.mpr (of_decide_eq_true h))

theorem verdict_of_not_fits {l : Line} (h : f.fits l = false) :
    f.verdict l = .error (f.tooLong l.body.length) :=
  verdict_long (Nat.lt_of_not_le (of_decide_eq_false h))

/-- A framer with no line passed over owes what can be read. -/
theorem owes_fresh (h : f.IsFresh) (content : Bytes) :
    f.Owes content (f.terminator.cut [] content).1 (f.terminator.cut [] content).2 :=
  ⟨[], Or.inl ⟨rfl, h⟩, open_nil _, not_parted_nil _ _, rfl⟩

theorem Owes.isOpen (h : f.Owes content pending left) : f.terminator.Open left := by
  rcases h with ⟨begun, -, hopen, -, hcut⟩
  have hleft := open_cut hopen content
  rwa [hcut] at hleft

/-- A framer that waits for the end of a line owes what there is of it. -/
theorem Awaits.owes (h : f.Awaits content left) (hopen : f.terminator.Open left) :
    f.Owes content [] left := by
  rcases h with ⟨-, hfresh, rfl⟩ | ⟨hlong, hpassed, rfl⟩
  · exact ⟨[], Or.inl ⟨rfl, hfresh⟩, open_nil _, not_parted_nil _ _, hopen⟩
  · exact ⟨left, Or.inr ⟨hlong, hpassed⟩, hopen, not_parted_end _ _, rfl⟩

/-- Bytes that arrive add to what is owed. -/
theorem Owes.append (h : f.Owes content pending left) {bytes : Bytes}
    (hintact : ¬ f.terminator.Severed f.maxLength left bytes) :
    f.Owes (content ++ bytes) (pending ++ (f.terminator.cut left bytes).1)
      (f.terminator.cut left bytes).2 := by
  rcases h with ⟨begun, hpassed, hopen, hparted, hcut⟩
  refine ⟨begun, hpassed, hopen, ?_, by rw [cut_append, hcut]⟩
  cases content with
  | nil =>
      -- All that there was has been passed over, and `bytes` comes right after it.
      have hleft : begun = left := congrArg Prod.snd hcut
      subst hleft
      rcases hpassed with ⟨rfl, -⟩ | ⟨hlong, -⟩
      · exact not_parted_nil _ _
      · exact fun hparted => hintact ⟨hlong, hparted⟩
  | cons byte rest => exact hparted

theorem Owes.length_le (h : f.Owes content pending left) :
    content.length ≤ (pending.flatMap Line.bytes ++ left).length := by
  rcases h with ⟨begun, -, -, -, hcut⟩
  have hflatten := cut_flatten f.terminator begun content
  rw [hcut] at hflatten
  rw [hflatten, List.length_append]
  exact Nat.le_add_left _ _

/-- A framer that is not over a long line, and owes no line, has what is left to read. -/
theorem Owes.content_eq (h : f.Owes content [] left) (hshort : left.length ≤ f.maxLength) :
    content = left ∧ f.IsFresh := by
  rcases h with ⟨begun, hpassed, hopen, -, hcut⟩
  have hflatten := cut_flatten f.terminator begun content
  rw [hcut, List.flatMap_nil, List.nil_append] at hflatten
  rcases hpassed with ⟨rfl, hfresh⟩ | ⟨hlong, -⟩
  · exact ⟨hflatten.symm, hfresh⟩
  · have hlen : left.length = begun.length + content.length := by
      rw [← List.length_append, ← hflatten]
    omega

end LineFramer

/-- What a round leaves that found `lines`, and then `left`, in front of a framer. -/
structure Round (r : Decoding LineFramer) (f : LineFramer) (s : Sealed) (lines : List Line)
    (left : Bytes) : Prop where
  found : r.found = (lines.takeWhile f.fits).map fun l => .own (f.frame s.order l)
  ending : r.ending = f.endingOf lines
  fresh : r.state.fresh = f.fresh
  sound : r.bytes.buffer.Sound r.bytes.memory
  order : r.bytes.order = s.order
  maxCapacity : r.bytes.buffer.maxCapacity = s.buffer.maxCapacity
  owes : r.state.Owes r.bytes.content (lines.dropWhile f.fits).tail left

/-- A round does not depend on how much the framer has passed over, but for what is owed. -/
theorem Round.of_fresh {r : Decoding LineFramer} {f g : LineFramer} {s : Sealed}
    {lines : List Line} {left : Bytes} (h : Round r g s lines left) (hfresh : g.fresh = f.fresh) :
    Round r f s lines left := by
  have hfits := congrArg LineFramer.fits hfresh
  have hframe := congrArg LineFramer.frame hfresh
  have hendingOf := congrArg LineFramer.endingOf hfresh
  change g.fits = f.fits at hfits
  change g.frame = f.frame at hframe
  change g.endingOf = f.endingOf at hendingOf
  rcases h with ⟨hfound, hending, hstate, hsound, horder, hmax, howes⟩
  rw [hfits, hframe] at hfound
  rw [hendingOf] at hending
  rw [hfits] at howes
  exact ⟨hfound, hending, hstate.trans hfresh, hsound, horder, hmax, howes⟩

/-- A line is copied when it is cut, so nothing that is done to the bytes shows in it. -/
theorem Round.messages {r : Decoding LineFramer} {f : LineFramer} {s : Sealed}
    {lines : List Line} {left : Bytes} (h : Round r f s lines left) :
    r.messages = (lines.takeWhile f.fits).map (f.frame s.order) := by
  rw [Decoding.messages, h.found, List.map_map]
  rfl

namespace Decoder

variable {f : LineFramer} {s : Sealed} {atEnd : Bool} {begun left : Bytes} {ls : List Line}

section Steps

variable {δ : Type} {d : Decoder δ} {state state' : δ} {s' : Sealed} {ns : List Notice}

/-- Where nothing can be read, a round is over. -/
theorem decodeUpTo_unreadable (d : Decoder δ) (limit : Nat) (state : δ)
    (h : s.isReadable = false) :
    d.decodeUpTo atEnd limit state s = { ending := .done, state, bytes := s } := by
  cases limit with
  | zero => rfl
  | succ limit => rw [decodeUpTo, if_pos h]

variable (limit : Nat) (hreadable : s.isReadable = true)
include hreadable

theorem decodeUpTo_failed {cause : Error}
    (h : d.attempt atEnd state s = ⟨.failed cause, state', s', ns⟩) :
    d.decodeUpTo atEnd (limit + 1) state s =
      { ending := .failed cause, state := state', bytes := s', notices := ns } := by
  rw [decodeUpTo, if_neg (by rw [hreadable]; simp), h]

theorem decodeUpTo_stuck (h : d.attempt atEnd state s = ⟨.nothing, state', s', ns⟩)
    (hsame : s'.readableBytes = s.readableBytes) :
    d.decodeUpTo atEnd (limit + 1) state s =
      { ending := .done, state := state', bytes := s', notices := ns } := by
  rw [decodeUpTo, if_neg (by rw [hreadable]; simp), h]
  exact if_neg (not_not_intro hsame)

theorem decodeUpTo_nothing (h : d.attempt atEnd state s = ⟨.nothing, state', s', ns⟩)
    (hmoved : s'.readableBytes ≠ s.readableBytes) :
    d.decodeUpTo atEnd (limit + 1) state s =
      { d.decodeUpTo atEnd limit state' s' with
        notices := ns ++ (d.decodeUpTo atEnd limit state' s').notices } := by
  rw [decodeUpTo, if_neg (by rw [hreadable]; simp), h]
  exact if_pos hmoved

theorem decodeUpTo_message {made : Decoded}
    (h : d.attempt atEnd state s = ⟨.message made, state', s', ns⟩)
    (hmoved : s'.readableBytes ≠ s.readableBytes) :
    d.decodeUpTo atEnd (limit + 1) state s =
      { d.decodeUpTo atEnd limit state' s' with
        found := made :: (d.decodeUpTo atEnd limit state' s').found
        notices := ns ++ (d.decodeUpTo atEnd limit state' s').notices } := by
  rw [decodeUpTo, if_neg (by rw [hreadable]; simp), h]
  exact if_pos hmoved

end Steps

/-! ### Attempts -/

theorem lines_attempt (atEnd : Bool) (f : LineFramer) (s : Sealed) :
    Decoder.lines.attempt atEnd f s =
      { finding :=
          match (f.decode s.buffer s.memory).result with
          | .ok (some line) =>
            .message (.own (.buffer (Sealed.ofView line (f.decode s.buffer s.memory).memory)))
          | .ok none => .nothing
          | .error cause => .failed cause
        state := (f.decode s.buffer s.memory).framer
        bytes := { s with buffer := (f.decode s.buffer s.memory).buffer }
        notices := (f.decode s.buffer s.memory).notices } := rfl

/-- An attempt where a line ends makes a message of it, or fails if it is too long. -/
theorem attempt_took (atEnd : Bool) {l : Line} {used : Nat}
    (h : (f.decode s.buffer s.memory).Took f s.buffer s.memory l used) :
    Decoder.lines.attempt atEnd f s =
      { finding := if f.fits l then .message (.own (f.frame s.order l)) else
          .failed (f.tooLong l.body.length)
        state := f.fresh
        bytes := s.past used } := by
  have hfound := h.found
  rw [lines_attempt, h.framer, h.buffer, h.notices]
  rw [LineFramer.Attempt.found] at hfound
  cases hfits : f.fits l with
  | true =>
      rw [LineFramer.verdict_of_fits hfits] at hfound
      -- The line was taken, and a message holds its bytes in the order of the stream.
      cases hresult : (f.decode s.buffer s.memory).result with
      | error cause =>
          rw [hresult] at hfound
          exact nomatch hfound
      | ok line? =>
          rw [hresult] at hfound
          cases line? with
          | none => exact nomatch hfound
          | some line =>
              have hbytes : line.content (f.decode s.buffer s.memory).memory = f.trim l :=
                Option.some.inj (Except.ok.inj hfound)
              have hframe : Sealed.ofView line (f.decode s.buffer s.memory).memory =
                  Sealed.ofBytes s.order (f.trim l) := by
                rw [Sealed.ofView, hbytes, h.order line hresult]
                rfl
              simp only [hframe]
              rfl
  | false =>
      rw [LineFramer.verdict_of_not_fits hfits] at hfound
      cases hresult : (f.decode s.buffer s.memory).result with
      | error cause =>
          rw [hresult] at hfound
          have hcause : cause = f.tooLong l.body.length := Except.error.inj hfound
          rw [hcause]
          rfl
      | ok line? =>
          rw [hresult] at hfound
          exact nomatch hfound

/-- An attempt where no line ends comes to nothing. -/
theorem attempt_waited (atEnd : Bool)
    (h : (f.decode s.buffer s.memory).Waited f s.buffer s.memory left) :
    Decoder.lines.attempt atEnd f s =
      { finding := .nothing
        state := (f.decode s.buffer s.memory).framer
        bytes := { s with buffer := (f.decode s.buffer s.memory).buffer }
        notices := (f.decode s.buffer s.memory).notices } := by
  rw [lines_attempt, h.result]

/-! ### Rounds -/

/-- A round in front of nothing leaves what was owed. -/
theorem round_unreadable (hsound : s.buffer.Sound s.memory) (hunreadable : s.isReadable = false)
    (howes : f.Owes s.content ls left) (limit : Nat) :
    Round (Decoder.lines.decodeUpTo atEnd limit f s) f s ls left := by
  have hls : ls = [] := by
    rcases howes with ⟨begun, -, -, -, hcut⟩
    rw [(Sealed.isReadable_eq_false_iff hsound).mp hunreadable] at hcut
    exact (congrArg Prod.fst hcut).symm
  subst hls
  rw [decodeUpTo_unreadable _ _ _ hunreadable]
  exact ⟨rfl, rfl, rfl, hsound, rfl, rfl, howes⟩

/-- A round in which no line ends waits for the end of one. -/
theorem round_waited {limit : Nat} (hsound : s.buffer.Sound s.memory)
    (hreadable : s.isReadable = true) (hopen : f.terminator.Open left)
    (h : (f.decode s.buffer s.memory).Waited f s.buffer s.memory left) :
    Round (Decoder.lines.decodeUpTo atEnd (limit + 1) f s) f s [] left := by
  have hattempt := attempt_waited atEnd h
  have hterminator : (f.decode s.buffer s.memory).framer.terminator = f.terminator := by
    have hsame := congrArg LineFramer.terminator h.fresh
    exact hsame
  have howes := h.awaits.owes (by rw [hterminator]; exact hopen)
  rcases h.buffer with hbuffer | hbuffer
  · rw [hbuffer] at hattempt howes
    rw [decodeUpTo_stuck limit hreadable hattempt rfl]
    exact ⟨rfl, rfl, h.fresh, hsound, rfl, rfl, howes⟩
  · -- The framer has passed over all there was, so there is nothing to read any more.
    rcases Sealed.past_sound hsound (Nat.le_refl s.readableBytes) with ⟨hpast, hcontent, hcount⟩
    have hnone : (s.past s.readableBytes).isReadable = false := by
      rw [Sealed.isReadable_eq_false_iff hpast, hcontent]
      exact List.drop_of_length_le (Nat.le_of_eq hsound.length_content)
    have hmoved : (s.past s.readableBytes).readableBytes ≠ s.readableBytes := by
      have hpos : 0 < s.readableBytes := of_decide_eq_true hreadable
      omega
    have hbytes : { s with buffer := (f.decode s.buffer s.memory).buffer } =
        s.past s.readableBytes := by
      rw [hbuffer]
      rfl
    rw [hbytes] at hattempt
    rw [hbuffer] at howes
    rw [decodeUpTo_nothing limit hreadable hattempt hmoved, decodeUpTo_unreadable _ _ _ hnone]
    exact ⟨rfl, rfl, h.fresh, hpast, rfl, rfl, howes⟩

/-- What a round makes of lines: messages of those before the first long one. -/
theorem decodeUpTo_lines {limit : Nat} (hsound : s.buffer.Sound s.memory)
    (howes : f.Owes s.content ls left) (hlimit : s.readableBytes ≤ limit) :
    Round (Decoder.lines.decodeUpTo atEnd limit f s) f s ls left := by
  -- By induction on the calls that are left; each line uses up a byte, so there are enough.
  induction limit generalizing f s ls with
  | zero =>
      have hnone : s.isReadable = false := decide_eq_false (Nat.not_lt.mpr hlimit)
      exact round_unreadable hsound hnone howes 0
  | succ limit ih =>
      cases hreadable : s.isReadable with
      | false => exact round_unreadable hsound hreadable howes _
      | true =>
          have hopen := howes.isOpen
          rcases howes with ⟨begun, hpassed, hbegun, hparted, hcut⟩
          have hlen : s.content.length = s.readableBytes := hsound.length_content
          rcases firstEnd_cut hparted with
            ⟨hend, hnone⟩ | ⟨body, ending, rest, hcontent, hne, hend, hsome⟩
          · rw [hnone] at hcut
            have hls : [] = ls := congrArg Prod.fst hcut
            have hleft : begun ++ s.content = left := congrArg Prod.snd hcut
            subst hls hleft
            exact round_waited hsound hreadable hopen (LineFramer.decode_waited hsound hpassed hend)
          · obtain ⟨l, hl⟩ : ∃ l : Line, l = ⟨begun ++ body, ending⟩ := ⟨_, rfl⟩
            have htook := LineFramer.decode_took hsound hpassed hcontent hend
            rw [hsome] at hcut
            rw [← hl] at htook hcut
            have hls : l :: (f.terminator.cut [] rest).1 = ls := congrArg Prod.fst hcut
            have hleft : (f.terminator.cut [] rest).2 = left := congrArg Prod.snd hcut
            subst hls hleft
            rw [hcontent, List.length_append, List.length_append] at hlen
            have hused : body.length + ending.length ≤ s.readableBytes := by omega
            have hpos := List.length_pos_iff.mpr hne
            rcases Sealed.past_sound hsound hused with ⟨hpast, hrest, hcount⟩
            rw [hcontent, List.drop_left' (by rw [List.length_append])] at hrest
            -- What comes after this line starts a new one.
            have hlater : f.fresh.Owes (s.past (body.length + ending.length)).content
                (f.terminator.cut [] rest).1 (f.terminator.cut [] rest).2 := by
              rw [hrest]
              exact LineFramer.owes_fresh f.isFresh_fresh rest
            have hattempt := attempt_took atEnd htook
            cases hfits : f.fits l with
            | false =>
                -- The round is over, and owes all lines after this one.
                rw [hfits] at hattempt
                rw [decodeUpTo_failed limit hreadable hattempt]
                refine ⟨?_, ?_, rfl, hpast, rfl, rfl, ?_⟩
                · rw [List.takeWhile_cons_of_neg (by rw [hfits]; simp)]
                  rfl
                · exact (LineFramer.endingOf_failed
                    (List.dropWhile_cons_of_neg (by rw [hfits]; simp))).symm
                · rw [List.dropWhile_cons_of_neg (by rw [hfits]; simp)]
                  exact hlater
            | true =>
                have hround := ih hpast hlater (by omega)
                rw [hfits] at hattempt
                rw [decodeUpTo_message limit hreadable hattempt (by omega)]
                refine ⟨?_, ?_, hround.fresh, hround.sound, hround.order, hround.maxCapacity, ?_⟩
                · rw [List.takeWhile_cons_of_pos hfits, List.map_cons]
                  exact congrArg (.own (f.frame s.order l) :: ·) hround.found
                · rw [LineFramer.endingOf, List.dropWhile_cons_of_pos hfits]
                  exact hround.ending
                · rw [List.dropWhile_cons_of_pos hfits]
                  exact hround.owes

/-- What `decodeAll` makes of lines. -/
theorem decodeAll_lines (hsound : s.buffer.Sound s.memory) (howes : f.Owes s.content ls left) :
    Round (Decoder.lines.decodeAll atEnd f s) f s ls left :=
  decodeUpTo_lines hsound howes (Nat.le_refl _)

end Decoder

end Conduit
