import Conduit.Proofs.Framing.Onward

/-!
# Rounds of Any Decoder

A decoder is brought along by the user. What it makes of bytes may depend on all that it
was called on before, and it may fail, pass over bytes without a message, or make a
message without using a byte. All that is asked of it is that it goes `Forward`: it never
moves the reader back, and it leaves the writer alone.

A round is as many calls as it takes, so `Rounds` knows no limit. Each call but the last
gets on, that is, it uses a byte and neither fails nor panics. A decoder that goes forward
has fewer bytes before it after each such call, and that ends the round before the number
of calls can pass the number of bytes. The limit of `decodeUpTo` is therefore never what
ends it.

What a round has found is read off the calls. A message counts if its call got on, so
all messages before a failure count, and the one of a call that used nothing does not.

## Main definitions

* `Trial`: One call of a decoder.
* `Decoder.Forward`: A decoder that never goes back.
* `Decoder.Rounds`: The calls of a round, and where they lead.
* `Decoder.Comes`: What can be said of a round.

## Theorems

* `verdict_some`, `verdict_none`, `made?_of_verdict`: The calls that end a round, and the
  others.
* `decodeUpTo_ended`, `decodeUpTo_goesOn`: A round by its first call.
* `Forward.less`: A byte that is used is gone.
* `exists_rounds`: A round ends.
* `Rounds.unique`: It goes in one way only.
* `Rounds.others`, `Rounds.last`, `Rounds.kept`: What holds of its calls.
* `decodeAll_comes`: What a round comes to.
* `lines_forward`: Cutting lines goes forward.
-/

namespace Conduit

variable {δ : Type}

/-- One call of a decoder: the bytes it was called on, and what came of it. -/
structure Trial (δ : Type) where
  before : Sealed
  step : DecoderStep δ

namespace Trial

/-- The call has used bytes. -/
def Moved (a : Trial δ) : Prop := a.step.bytes.readableBytes ≠ a.before.readableBytes

instance (a : Trial δ) : Decidable a.Moved := inferInstanceAs (Decidable (_ ≠ _))

/-- What the call has made, if it used bytes for it. -/
def made? (a : Trial δ) : Option Decoded :=
  match a.step.finding with
  | .message made => if a.Moved then some made else none
  | _ => none

/-- How a round ends with the call, if it does. -/
def verdict (d : Decoder δ) (a : Trial δ) : Option Ending :=
  match a.step.finding with
  | .message _ =>
    if a.Moved then none else some (.failed (.illegalState (.decodedNothing d.typeName)))
  | .nothing => if a.Moved then none else some .done
  | .failed cause => some (.failed cause)
  | .panicked cause => some (.panicked cause)

end Trial

namespace Decoder

/-- A decoder on its own: it never moves the reader back, and it leaves the writer alone. -/
structure Forward (d : Decoder δ) : Prop where
  reader : ∀ atEnd state {s}, s.buffer.Valid →
    s.buffer.reader ≤ (d.attempt atEnd state s).bytes.buffer.reader
  writer : ∀ atEnd state {s}, s.buffer.Valid →
    (d.attempt atEnd state s).bytes.buffer.writer = s.buffer.writer
  /-- Whatever is done with a buffer, its cursors stay in order. -/
  valid : ∀ atEnd state {s}, s.buffer.Valid → (d.attempt atEnd state s).bytes.buffer.Valid

/-- A call of a decoder. -/
def trial (d : Decoder δ) (atEnd : Bool) (state : δ) (s : Sealed) : Trial δ :=
  ⟨s, d.attempt atEnd state s⟩

/-- The calls of a round, one after the other, the ending they lead to, and what they leave.
    There is a call as long as something can be read and no call has ended the round. -/
inductive Rounds (d : Decoder δ) (atEnd : Bool) :
    δ → Sealed → List (Trial δ) → Ending → δ → Sealed → Prop
  | drained {state : δ} {s : Sealed} (h : s.isReadable = false) :
      Rounds d atEnd state s [] .done state s
  | ended {state : δ} {s : Sealed} {ending : Ending} (h : s.isReadable = true)
      (hended : (d.trial atEnd state s).verdict d = some ending) :
      Rounds d atEnd state s [d.trial atEnd state s] ending
        (d.attempt atEnd state s).state (d.attempt atEnd state s).bytes
  | goesOn {state state' : δ} {s s' : Sealed} {trials : List (Trial δ)} {ending : Ending}
      (h : s.isReadable = true) (hon : (d.trial atEnd state s).verdict d = none)
      (rest : Rounds d atEnd (d.attempt atEnd state s).state (d.attempt atEnd state s).bytes
        trials ending state' s') :
      Rounds d atEnd state s (d.trial atEnd state s :: trials) ending state' s'

/-- What can be said of a round that came to `r` by some calls. -/
structure Comes (d : Decoder δ) (atEnd : Bool) (state : δ) (s : Sealed) (trials : List (Trial δ))
    (r : Decoding δ) : Prop where
  rounds : d.Rounds atEnd state s trials r.ending r.state r.bytes
  /-- There is no other way to go. -/
  only : ∀ trials' ending state' s', d.Rounds atEnd state s trials' ending state' s' →
    trials' = trials
  few : trials.length ≤ s.readableBytes
  /-- All calls but the last got on. -/
  others : ∀ a ∈ trials.dropLast, a.Moved ∧
    (a.step.finding = .nothing ∨ ∃ made, a.step.finding = .message made)
  /-- What the calls have made that used bytes for it, in order. -/
  found : r.found = trials.filterMap Trial.made?
  notices : r.notices = trials.flatMap (·.step.notices)
  /-- It is for one of these reasons that the round is over. -/
  reason : match r.ending with
    | .done => r.bytes.isReadable = false ∨ ∃ a, trials.getLast? = some a ∧
        a.step.finding = .nothing ∧ ¬ a.Moved
    | .failed cause => ∃ a, trials.getLast? = some a ∧ (a.step.finding = .failed cause ∨
        (∃ made, a.step.finding = .message made) ∧ ¬ a.Moved ∧
          cause = .illegalState (.decodedNothing d.typeName))
    | .panicked cause => ∃ a, trials.getLast? = some a ∧ a.step.finding = .panicked cause
  /-- The reader has moved on, and the writer has not. -/
  kept : r.bytes.buffer.Valid ∧ s.buffer.reader ≤ r.bytes.buffer.reader ∧
    r.bytes.buffer.writer = s.buffer.writer

variable {d : Decoder δ} {atEnd : Bool} {state state' : δ} {s s' : Sealed} {ending : Ending}
  {trials : List (Trial δ)}

/-! ### One call -/

/-- The calls that end a round. -/
theorem verdict_some {a : Trial δ} (h : a.verdict d = some ending) :
    (a.step.finding = .nothing ∧ ¬ a.Moved ∧ ending = .done) ∨
      (∃ made, a.step.finding = .message made ∧ ¬ a.Moved ∧
        ending = .failed (.illegalState (.decodedNothing d.typeName))) ∨
      (∃ cause, a.step.finding = .failed cause ∧ ending = .failed cause) ∨
      ∃ cause, a.step.finding = .panicked cause ∧ ending = .panicked cause := by
  unfold Trial.verdict at h
  -- The verdict looks at the finding first, and at the buffer only if that is no failure.
  cases hfinding : a.step.finding with
  | message msg =>
      rw [hfinding] at h
      by_cases hmoved : a.Moved
      · simp [hmoved] at h
      · simp only [hmoved, if_false, Option.some.injEq] at h
        exact Or.inr (Or.inl ⟨msg, rfl, hmoved, h.symm⟩)
  | nothing =>
      rw [hfinding] at h
      by_cases hmoved : a.Moved
      · simp [hmoved] at h
      · simp only [hmoved, if_false, Option.some.injEq] at h
        exact Or.inl ⟨rfl, hmoved, h.symm⟩
  | failed cause =>
      rw [hfinding] at h
      exact Or.inr (Or.inr (Or.inl ⟨cause, rfl, (Option.some.inj h).symm⟩))
  | panicked cause =>
      rw [hfinding] at h
      exact Or.inr (Or.inr (Or.inr ⟨cause, rfl, (Option.some.inj h).symm⟩))

/-- The calls that do not. -/
theorem verdict_none {a : Trial δ} (h : a.verdict d = none) :
    a.Moved ∧ (a.step.finding = .nothing ∨ ∃ made, a.step.finding = .message made) := by
  unfold Trial.verdict at h
  cases hfinding : a.step.finding with
  | message msg =>
      rw [hfinding] at h
      by_cases hmoved : a.Moved
      · exact ⟨hmoved, Or.inr ⟨msg, rfl⟩⟩
      · simp [hmoved] at h
  | nothing =>
      rw [hfinding] at h
      by_cases hmoved : a.Moved
      · exact ⟨hmoved, Or.inl rfl⟩
      · simp [hmoved] at h
  | failed cause =>
      rw [hfinding] at h
      exact nomatch h
  | panicked cause =>
      rw [hfinding] at h
      exact nomatch h

/-- A call that ends a round has no message that counts. -/
theorem made?_of_verdict {a : Trial δ} (h : a.verdict d = some ending) : a.made? = none := by
  unfold Trial.made?
  rcases verdict_some h with ⟨hfinding, -, -⟩ | ⟨msg, hfinding, hmoved, -⟩ |
    ⟨cause, hfinding, -⟩ | ⟨cause, hfinding, -⟩
  · rw [hfinding]
  · rw [hfinding]
    exact if_neg hmoved
  · rw [hfinding]
  · rw [hfinding]

theorem decodeUpTo_ended (limit : Nat) (hreadable : s.isReadable = true)
    (hended : (d.trial atEnd state s).verdict d = some ending) :
    d.decodeUpTo atEnd (limit + 1) state s =
      { ending
        state := (d.attempt atEnd state s).state
        bytes := (d.attempt atEnd state s).bytes
        notices := (d.attempt atEnd state s).notices } := by
  rw [decodeUpTo, if_neg (by rw [hreadable]; simp)]
  rcases verdict_some hended with ⟨hfinding, hmoved, rfl⟩ | ⟨msg, hfinding, hmoved, rfl⟩ |
    ⟨cause, hfinding, rfl⟩ | ⟨cause, hfinding, rfl⟩
  all_goals
    change (d.attempt atEnd state s).finding = _ at hfinding
    simp only [hfinding]
  · exact if_neg hmoved
  · exact if_neg hmoved

theorem decodeUpTo_goesOn (limit : Nat) (hreadable : s.isReadable = true)
    (hon : (d.trial atEnd state s).verdict d = none) :
    let rest := d.decodeUpTo atEnd limit (d.attempt atEnd state s).state
      (d.attempt atEnd state s).bytes
    d.decodeUpTo atEnd (limit + 1) state s =
      { rest with
        found := (d.trial atEnd state s).made?.toList ++ rest.found
        notices := (d.attempt atEnd state s).notices ++ rest.notices } := by
  intro rest
  rw [decodeUpTo, if_neg (by rw [hreadable]; simp)]
  rcases verdict_none hon with ⟨hmoved, hfinding | ⟨msg, hfinding⟩⟩
  all_goals
    unfold Trial.made?
    rw [hfinding]
    change (d.attempt atEnd state s).finding = _ at hfinding
    simp only [hfinding]
  · exact if_pos hmoved
  · rw [if_pos hmoved]
    exact if_pos hmoved

/-! ### Rounds -/

/-- A decoder that goes forward has fewer bytes before it once it has used one. -/
theorem Forward.less (hd : d.Forward) (hs : s.buffer.Valid)
    (hmoved : (d.trial atEnd state s).Moved) :
    (d.attempt atEnd state s).bytes.readableBytes < s.readableBytes := by
  have hreader := hd.reader atEnd state hs
  have hwriter := hd.writer atEnd state hs
  unfold Trial.Moved trial Sealed.readableBytes Buffer.readableBytes at *
  dsimp only at hmoved
  omega

/-- A round ends, after no more calls than there are bytes, and a limit that allows for as many
    has no say in it. -/
theorem exists_rounds (hd : d.Forward) (atEnd : Bool) (state : δ) (hs : s.buffer.Valid)
    {limit : Nat} (hlimit : s.readableBytes ≤ limit) :
    ∃ trials, d.Rounds atEnd state s trials (d.decodeUpTo atEnd limit state s).ending
        (d.decodeUpTo atEnd limit state s).state (d.decodeUpTo atEnd limit state s).bytes ∧
      trials.length ≤ s.readableBytes ∧
      (d.decodeUpTo atEnd limit state s).found = trials.filterMap Trial.made? ∧
      (d.decodeUpTo atEnd limit state s).notices = trials.flatMap (·.step.notices) := by
  -- With each call that gets on there is one call less to come, and at least one byte less.
  induction limit generalizing state s with
  | zero =>
      have hnone : s.isReadable = false := decide_eq_false (Nat.not_lt.mpr hlimit)
      rw [decodeUpTo_unreadable _ _ _ hnone]
      exact ⟨[], Rounds.drained hnone, Nat.zero_le _, rfl, rfl⟩
  | succ limit ih =>
      cases hreadable : s.isReadable with
      | false =>
          rw [decodeUpTo_unreadable _ _ _ hreadable]
          exact ⟨[], Rounds.drained hreadable, Nat.zero_le _, rfl, rfl⟩
      | true =>
          have hpos : 0 < s.readableBytes := of_decide_eq_true hreadable
          cases hverdict : (d.trial atEnd state s).verdict d with
          | some ending =>
              rw [decodeUpTo_ended limit hreadable hverdict]
              refine ⟨[d.trial atEnd state s], Rounds.ended hreadable hverdict, hpos, ?_, ?_⟩
              · rw [List.filterMap_cons, made?_of_verdict hverdict]
                rfl
              · exact (List.append_nil _).symm
          | none =>
              have hless := hd.less hs (verdict_none hverdict).1
              have hvalid := hd.valid atEnd state hs
              rcases ih _ hvalid (by omega) with ⟨trials, hrounds, hfew, hfound, hnotices⟩
              rw [decodeUpTo_goesOn limit hreadable hverdict]
              refine ⟨d.trial atEnd state s :: trials, Rounds.goesOn hreadable hverdict hrounds, ?_,
                ?_, ?_⟩
              · rw [List.length_cons]
                omega
              · dsimp only
                rw [hfound, List.filterMap_cons]
                cases (d.trial atEnd state s).made? <;> rfl
              · dsimp only
                rw [hnotices, List.flatMap_cons]
                rfl

/-- A round goes in one way only. -/
theorem Rounds.unique (h : d.Rounds atEnd state s trials ending state' s')
    {trials' : List (Trial δ)} {ending' : Ending} {state'' : δ} {s'' : Sealed}
    (h' : d.Rounds atEnd state s trials' ending' state'' s'') : trials' = trials := by
  -- Whether there is a call, and whether it is the last, is decided by the state and the bytes.
  induction h generalizing trials' with
  | drained hnone =>
      cases h' with
      | drained _ => rfl
      | ended h _ | goesOn h _ _ => exact nomatch hnone.symm.trans h
  | ended hreadable hended =>
      cases h' with
      | drained hnone => exact nomatch hnone.symm.trans hreadable
      | ended _ _ => rfl
      | goesOn _ hon _ => exact nomatch hon.symm.trans hended
  | goesOn hreadable hon _ ih =>
      cases h' with
      | drained hnone => exact nomatch hnone.symm.trans hreadable
      | ended _ hended => exact nomatch hon.symm.trans hended
      | goesOn _ _ rest => rw [ih rest]

theorem Rounds.others (h : d.Rounds atEnd state s trials ending state' s') :
    ∀ a ∈ trials.dropLast, a.Moved ∧
      (a.step.finding = .nothing ∨ ∃ made, a.step.finding = .message made) := by
  induction h with
  | drained _ => exact fun a ha => nomatch ha
  | ended _ _ => exact fun a ha => nomatch ha
  | @goesOn state state' s s' trials ending _ hon _ ih =>
      intro a ha
      cases trials with
      | nil => exact nomatch ha
      | cons b trials =>
          rw [List.dropLast_cons_cons, List.mem_cons] at ha
          rcases ha with rfl | ha
          · exact verdict_none hon
          · exact ih a ha

/-- A round is over because nothing is left, or because of its last call. -/
theorem Rounds.last (h : d.Rounds atEnd state s trials ending state' s') :
    (ending = .done ∧ s'.isReadable = false) ∨
      ∃ a, trials.getLast? = some a ∧ a.verdict d = some ending := by
  induction h with
  | drained hnone => exact Or.inl ⟨rfl, hnone⟩
  | ended _ hended => exact Or.inr ⟨_, rfl, hended⟩
  | goesOn _ _ _ ih =>
      rcases ih with hdone | ⟨a, hlast, hverdict⟩
      · exact Or.inl hdone
      · refine Or.inr ⟨a, ?_, hverdict⟩
        rw [List.getLast?_cons, hlast]
        rfl

theorem Rounds.kept (h : d.Rounds atEnd state s trials ending state' s') (hd : d.Forward)
    (hs : s.buffer.Valid) :
    s'.buffer.Valid ∧ s.buffer.reader ≤ s'.buffer.reader ∧ s'.buffer.writer = s.buffer.writer := by
  induction h with
  | drained _ => exact ⟨hs, Nat.le_refl _, rfl⟩
  | ended _ _ => exact ⟨hd.valid _ _ hs, hd.reader _ _ hs, hd.writer _ _ hs⟩
  | goesOn _ _ _ ih =>
      rcases ih (hd.valid _ _ hs) with ⟨hvalid, hreader, hwriter⟩
      exact ⟨hvalid, Nat.le_trans (hd.reader _ _ hs) hreader, hwriter.trans (hd.writer _ _ hs)⟩

/-- What a round of a decoder comes to that goes forward. -/
theorem decodeAll_comes (hd : d.Forward) (hs : s.buffer.Valid) (atEnd : Bool) (state : δ) :
    ∃ trials, d.Comes atEnd state s trials (d.decodeAll atEnd state s) := by
  rcases exists_rounds hd atEnd state hs (Nat.le_refl _) with
    ⟨trials, hrounds, hfew, hfound, hnotices⟩
  -- There are as many calls allowed as there are bytes.
  rw [← decodeAll] at hrounds hfound hnotices
  refine ⟨trials, hrounds, fun _ _ _ _ h' => hrounds.unique h', hfew, hrounds.others, hfound,
    hnotices, ?_, hrounds.kept hd hs⟩
  rcases hrounds.last with ⟨hdone, hnone⟩ | ⟨a, hlast, hverdict⟩
  · rw [hdone]
    exact Or.inl hnone
  · rcases verdict_some hverdict with ⟨hfinding, hmoved, hending⟩ |
      ⟨msg, hfinding, hmoved, hending⟩ | ⟨cause, hfinding, hending⟩ | ⟨cause, hfinding, hending⟩
    · rw [hending]
      exact Or.inr ⟨a, hlast, hfinding, hmoved⟩
    · rw [hending]
      exact ⟨a, hlast, Or.inr ⟨⟨msg, hfinding⟩, hmoved, rfl⟩⟩
    · rw [hending]
      exact ⟨a, hlast, Or.inl hfinding⟩
    · rw [hending]
      exact ⟨a, hlast, hfinding⟩

end Decoder

/-- The decoder that cuts lines goes forward, whatever its framer has passed over. -/
theorem Decoder.lines_forward : Decoder.lines.Forward where
  reader := by
    intro atEnd f s hs
    rcases f.decode_onward hs s.memory with ⟨n, -, hn⟩
    rw [lines_attempt, hn]
    exact Nat.le_add_right _ _
  writer := by
    intro atEnd f s hs
    rcases f.decode_onward hs s.memory with ⟨n, -, hn⟩
    rw [lines_attempt, hn]
  valid := by
    intro atEnd f s hs
    exact (f.decode_onward hs s.memory).valid hs

end Conduit
