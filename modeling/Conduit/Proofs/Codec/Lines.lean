import Mathlib.Data.List.TakeWhile
import Conduit.Proofs.Codec.Watch
import Conduit.Proofs.Framing.Decoding

/-!
# A Codec for Lines

The codec that cuts lines, at the head of a pipeline, while a stream of bytes comes
in. Each chunk is added to what waits for the codec, and announced; at the end of the
stream the channel goes inactive. On each of these occasions the codec makes one
round, which ends at the first line that is too long. Lines after that one wait for
the next occasion, and if that was the last, they wait for ever.

## Main definitions

* `World.Reads`: Where a codec stands between two occasions.
* `World.Tidy`: What the codec has read is discarded.

## Theorems

* `Reads.congr`, `Tidy.congr`: Only what is kept for the codec matters to it.
* `leftover_reads`: What is left after a round is what was owed, less what it has paid.
* `store_step`: The codec puts back what it leaves, and stores its state.
* `decodeLoose_reads`: A round of the codec.
* `discard_reads`: What was read is discarded.
* `targets_head`: The codec is the first to hear of what it asks for.
* `fireNow_reads`: New data is announced to the codec.
* `ended_reads`: It hears of the end of the stream.
* `inactiveNow_reads`: The channel goes inactive.
* `feed_reads`: A chunk is added to what waits for the codec.
* `receive_reads`: A chunk comes in.
-/

namespace Conduit

open Terminator

/-- What a codec leaves in its container: the bytes after the round, and no messages. -/
def Decoding.leftover {δ : Type} (r : Decoding δ) : Container where
  bytes := r.left

namespace World

variable {σ β : Type}

/-- A codec cuts lines like `f`. It has not got to the lines `pending`, and after them there
    is `left`. -/
structure Reads (w : World σ) (c : ContextId) (f : LineFramer) (order : ByteOrder)
    (pending : List Line) (left : Bytes) : Prop where
  owes : ∃ g, (w.context c).handler.role = .lines g ∧ g.fresh = f.fresh ∧
    g.Owes (w.context c).inbound.bytes.content pending left
  messages : (w.context c).inbound.messages = []
  sound : (w.context c).inbound.bytes.buffer.Sound (w.context c).inbound.bytes.memory
  maxCapacity : (w.context c).inbound.bytes.buffer.maxCapacity = Capacity.defaultMax
  order : (w.context c).inbound.bytes.order = order

/-- What was read of a container is discarded. -/
def Tidy (w : World σ) (c : ContextId) : Prop :=
  (w.context c).inbound.bytes.buffer.reader = 0

variable {w w' : World σ} {c : ContextId} {f : LineFramer} {order : ByteOrder}
  {pending : List Line} {left : Bytes}

theorem Reads.congr (h : w.Reads c f order pending left) (hsame : w'.context c = w.context c) :
    w'.Reads c f order pending left :=
  ⟨by rw [hsame]; exact h.owes, by rw [hsame]; exact h.messages, by rw [hsame]; exact h.sound,
    by rw [hsame]; exact h.maxCapacity, by rw [hsame]; exact h.order⟩

theorem Tidy.congr (h : w.Tidy c) (hsame : w'.context c = w.context c) : w'.Tidy c := by
  rw [Tidy, hsame]
  exact h

/-- The state of a codec is stored. -/
def keepFramer (c : ContextId) (g : LineFramer) (w : World σ) : World σ :=
  w.updateContext c fun x => { x with handler := { x.handler with role := .lines g } }

/-- What is left after a round is what was owed, less what the round has paid. -/
theorem leftover_reads {r : Decoding LineFramer} {s : Sealed}
    (hround : Round r f s pending left) (hs : s.buffer.maxCapacity = Capacity.defaultMax)
    (horder : s.order = order) (hrole : (w.context c).handler.role = .lines r.state)
    (hinbound : (w.context c).inbound = r.leftover) :
    w.Reads c f order (pending.dropWhile f.fits).tail left ∧
      (pending.dropWhile f.fits = [] → w.Tidy c) := by
  have hending := hround.ending
  have hmax := hround.maxCapacity.trans hs
  cases hlong : pending.dropWhile f.fits with
  | nil =>
      -- The round came to its end, and what was read is discarded.
      rw [LineFramer.endingOf_done hlong] at hending
      rcases Sealed.holds_discardReadBytes hround.sound hmax with ⟨hholds, hsame⟩
      have hbytes : (w.context c).inbound = { bytes := r.bytes.discardReadBytes } := by
        rw [hinbound, Decoding.leftover, Decoding.left, hending]
      have howes := hround.owes
      rw [hlong] at howes
      refine ⟨⟨⟨r.state, hrole, hround.fresh, ?_⟩, ?_, ?_, ?_, ?_⟩, fun _ => ?_⟩
      · rw [hbytes]
        change r.state.Owes r.bytes.discardReadBytes.content _ _
        rw [hholds.content]
        exact howes
      · rw [hbytes]
      · rw [hbytes]
        exact hholds.sound
      · rw [hbytes]
        exact hholds.maxCapacity
      · rw [hbytes]
        exact hsame.trans (hround.order.trans horder)
      · rw [Tidy, hbytes]
        exact hholds.front
  | cons l ls =>
      -- It failed, and whoever is told of that discards what was read, or does not.
      rw [LineFramer.endingOf_failed hlong] at hending
      have hbytes : (w.context c).inbound = { bytes := r.bytes } := by
        rw [hinbound, Decoding.leftover, Decoding.left, hending]
      have howes := hround.owes
      rw [hlong] at howes
      refine ⟨⟨⟨r.state, hrole, hround.fresh, ?_⟩, ?_, ?_, ?_, ?_⟩, fun hnil => nomatch hnil⟩
      · rw [hbytes]
        exact howes
      · rw [hbytes]
      · rw [hbytes]
        exact hround.sound
      · rw [hbytes]
        exact hmax
      · rw [hbytes]
        exact hround.order.trans horder

variable [Journal σ] {o : Watch σ β} {user : Caller σ → Caller σ} {depth : Nat}
  {p : PipelineId} {m : Member} {rest : Roster}

/-- The codec puts back what it leaves, notes what it noticed, and stores its state. -/
theorem store_step (h : o.Faithful user depth p m rest) (hcalm : o.calm w)
    (r : Decoding LineFramer) :
    let w' := keepFramer m.id r.state
      (r.notices.foldl notice (w.setContainer (.inbound m.id) r.leftover))
    o.Step p w w' [] [] ∧ w'.context m.id = { w.context m.id with
      inbound := r.leftover
      handler := { (w.context m.id).handler with role := .lines r.state } } := by
  intro w'
  have hknown := (h.hosts hcalm).known m List.mem_cons_self
  have hput : o.Step p w (w.setContainer (.inbound m.id) r.leftover) [] [] :=
    h.own hcalm fun x => ⟨r.leftover, x.handler.role, rfl⟩
  rcases h.notices hput.calm r.notices with ⟨hnoted, hcontexts⟩
  have hkept : o.Step p _ w' [] [] :=
    h.own hnoted.calm fun x => ⟨x.inbound, .lines r.state, rfl⟩
  refine ⟨(hput.trans hnoted).trans hkept, ?_⟩
  -- Notices do not change contexts, so the one that was put back is the one that is kept.
  have hlen : m.id < (r.notices.foldl notice
      (w.setContainer (.inbound m.id) r.leftover)).contexts.length := by
    rw [hcontexts]
    exact Nat.lt_of_lt_of_le hknown (Nat.le_of_eq (List.length_modify _ _ _).symm)
  change (updateContext _ _ _).context m.id = _
  rw [context_updateContext_self hlen, context, hcontexts, ← context, setContainer,
    context_updateContext_self hknown]

/-- A round of the codec: the lines before the first long one are handed on. -/
theorem decodeLoose_reads (h : o.Faithful user depth p m rest) (hcalm : o.calm w)
    (hreads : w.Reads m.id f order pending left)
    (hproper : ∀ l ∈ pending, f.fits l = true → o.proper (f.frame order l)) (atEnd : Bool) :
    ∃ g w', (w.context m.id).handler.role = .lines g ∧
      w.decodeLoose (respond user depth) m.id Decoder.lines g (keepFramer m.id) atEnd =
        (f.endingOf pending, w') ∧
      o.Step p w w' (((pending.takeWhile f.fits).map (f.frame order)).flatMap o.reading) [] ∧
      w'.Reads m.id f order (pending.dropWhile f.fits).tail left ∧
      (pending.dropWhile f.fits = [] → w'.Tidy m.id) := by
  rcases hreads.owes with ⟨g, hrole, hfresh, howes⟩
  obtain ⟨r, hr⟩ : ∃ r, r = Decoder.lines.decodeAll atEnd g (w.context m.id).inbound.bytes :=
    ⟨_, rfl⟩
  -- What the framer has been given so far is owed, and this is the round that pays some of it.
  have hround : Round r f (w.context m.id).inbound.bytes pending left := by
    rw [hr]
    exact (Decoder.decodeAll_lines hreads.sound howes).of_fresh hfresh
  rcases store_step h hcalm r with ⟨hstored, hcontext⟩
  have hmsgs : ∀ msg ∈ r.messages, o.proper msg := by
    intro msg hmsg
    rw [hround.messages, hreads.order] at hmsg
    rcases List.mem_map.mp hmsg with ⟨l, hl, rfl⟩
    exact hproper l ((List.takeWhile_prefix _).subset hl) (List.mem_takeWhile_imp hl)
  rcases h.handOn hstored.calm hmsgs with ⟨hhanded, hsame⟩
  rcases leftover_reads hround hreads.maxCapacity hreads.order (by rw [hsame, hcontext])
    (by rw [hsame, hcontext]) with ⟨hreads', htidy⟩
  refine ⟨g, _, hrole, ?_, ?_, hreads', htidy⟩
  · have hqueued : w.container (.inbound m.id) = (w.context m.id).inbound := rfl
    rw [decodeLoose, hqueued, Container.drain, hreads.messages]
    dsimp only
    rw [← hr, List.nil_append, ← hround.ending]
    cases hending : r.ending with
    | panicked cause =>
        -- A round over lines ends well or fails at one that is too long; it does not panic.
        exact absurd (hround.ending.symm.trans hending) (f.endingOf_ne_panicked pending cause)
    | _ => rfl
  · have hframes : (pending.takeWhile f.fits).map (f.frame order) = r.messages := by
      rw [hround.messages, hreads.order]
    rw [hframes]
    exact hstored.trans hhanded

/-! ### Occasions -/

/-- What was read of the codec's container is discarded. -/
theorem discard_reads (h : o.Faithful user depth p m rest) (hcalm : o.calm w)
    (hreads : w.Reads m.id f order pending left) :
    let w' := w.updateContainer (.inbound m.id) (·.discardReadBytes)
    o.Step p w w' [] [] ∧ w'.Reads m.id f order pending left ∧ w'.Tidy m.id := by
  intro w'
  have hknown := (h.hosts hcalm).known m List.mem_cons_self
  have hcontext : w'.context m.id = { w.context m.id with
      inbound := (w.context m.id).inbound.discardReadBytes } :=
    context_updateContext_self hknown _
  -- The framer owes the same lines, as the bytes that it has not read are the same.
  rcases Sealed.holds_discardReadBytes hreads.sound hreads.maxCapacity with ⟨hholds, hsame⟩
  rcases hreads.owes with ⟨g, hrole, hfresh, howes⟩
  refine ⟨h.own hcalm fun x => ⟨_, x.handler.role, rfl⟩,
    ⟨⟨g, ?_, hfresh, ?_⟩, ?_, ?_, ?_, ?_⟩, ?_⟩
  · rw [hcontext]
    exact hrole
  · rw [hcontext]
    change g.Owes (w.context m.id).inbound.bytes.discardReadBytes.content _ _
    rw [hholds.content]
    exact howes
  · rw [hcontext]
    exact hreads.messages
  · rw [hcontext]
    exact hholds.sound
  · rw [hcontext]
    exact hholds.maxCapacity
  · rw [hcontext]
    exact hsame.trans hreads.order
  · rw [Tidy, hcontext]
    exact hholds.front

/-- The codec is the first to hear of what it asks for. -/
theorem targets_head {kind : EventKind} (hkind : m.events.handles kind = true) :
    Roster.targets (m :: rest) .start kind = m :: rest.filter (·.events.handles kind) := by
  rw [Roster.targets, Roster.ahead]
  exact List.filter_cons_of_pos hkind

variable (h : o.Faithful user depth p m rest) (hcalm : o.calm w)
  (hevents : m.events = Decoder.events) (hreads : w.Reads m.id f order pending left)
  (hproper : ∀ l ∈ pending, f.fits l = true → o.proper (f.frame order l))
include h hcalm hevents hreads hproper

/-- New data is announced to the codec. -/
theorem fireNow_reads :
    let w' := w.fireNow (respond user (depth + 1)) p .start .messageUpdated
    o.Step p w w' (((pending.takeWhile f.fits).map (f.frame order)).flatMap o.reading)
        (f.faultsOf pending) ∧
      w'.Reads m.id f order (pending.dropWhile f.fits).tail left ∧ w'.Tidy m.id := by
  intro w'
  rcases decodeLoose_reads h hcalm hreads hproper false with
    ⟨g, w₁, hrole, hround, hstep, hreads₁, htidy⟩
  have hcall : respond user (depth + 1) (.handler m.id (.inbound .messageUpdated)) w =
      ((f.endingOf pending).outcome, w₁) := by
    rw [respond, answer, handlerCalled, hrole]
    change w.decodeInbound _ _ _ _ (keepFramer m.id) = _
    rw [decodeInbound, hround]
  have htargets : Roster.targets (m :: rest) .start (InboundEvent.kind .messageUpdated) = _ :=
    targets_head (by rw [hevents]; rfl)
  have hfire : w' = w.dispatch (respond user (depth + 1)) p .start .messageUpdated
      fun c cause w => (w.updateContainer (.inbound c) (·.discardReadBytes)).reportFailure
        (respond user (depth + 1)) p c .messageUpdated cause := rfl
  rw [(h.hosts hcalm).dispatch_some htargets, hcall] at hfire
  cases hlong : pending.dropWhile f.fits with
  | nil =>
      rw [LineFramer.endingOf_done hlong] at hfire
      rw [hfire, LineFramer.faultsOf, hlong]
      rw [hlong] at hreads₁ htidy
      exact ⟨hstep, hreads₁, htidy rfl⟩
  | cons l ls =>
      rw [LineFramer.endingOf_failed hlong] at hfire
      -- The line that failed is reported only after what was read has been discarded.
      rcases discard_reads h hstep.calm hreads₁ with ⟨hdiscard, hreads₂, htidy₂⟩
      rcases h.report .messageUpdated (f.tooLong l.body.length) hdiscard.calm with ⟨hreport, hsame⟩
      have hall := (hstep.trans hdiscard).trans hreport
      rw [List.append_nil, List.append_nil] at hall
      rw [hfire, LineFramer.faultsOf, hlong]
      rw [hlong] at hreads₂
      exact ⟨hall, hreads₂.congr hsame, htidy₂.congr hsame⟩

/-- The codec hears of the end of the stream. -/
theorem ended_reads :
    let w' := w.fireNow (respond user (depth + 1)) p .start .channelInactive
    o.Step p w w' (((pending.takeWhile f.fits).map (f.frame order)).flatMap o.reading)
        (f.faultsOf pending) ∧
      w'.Reads m.id f order (pending.dropWhile f.fits).tail left := by
  intro w'
  rcases decodeLoose_reads h hcalm hreads hproper true with
    ⟨g, w₁, hrole, hround, hstep, hreads₁, -⟩
  -- The event goes on past the codec, whatever became of the lines.
  rcases h.ended hstep.calm with ⟨hended, hsame⟩
  have hpassed := hstep.trans hended
  rw [List.append_nil, List.append_nil] at hpassed
  obtain ⟨w₂, hw₂⟩ : ∃ w₂, w₂ = w₁.fireFrom (respond user depth) m.id .channelInactive := ⟨_, rfl⟩
  rw [← hw₂] at hpassed hsame
  have hcall : respond user (depth + 1) (.handler m.id (.inbound .channelInactive)) w =
      ((f.endingOf pending).outcome, w₂) := by
    rw [respond, answer, handlerCalled, hrole]
    change w.decodeRest _ _ _ _ (keepFramer m.id) = _
    rw [decodeRest, hround, hw₂]
    cases hlong : pending.dropWhile f.fits with
    | nil => rw [LineFramer.endingOf_done hlong]
    | cons l ls => rw [LineFramer.endingOf_failed hlong]
  have htargets : Roster.targets (m :: rest) .start (InboundEvent.kind .channelInactive) = _ :=
    targets_head (by rw [hevents]; rfl)
  have hfire : w' = w.dispatch (respond user (depth + 1)) p .start .channelInactive
      fun c cause w => w.reportFailure (respond user (depth + 1)) p c .channelInactive cause := rfl
  rw [(h.hosts hcalm).dispatch_some htargets, hcall] at hfire
  cases hlong : pending.dropWhile f.fits with
  | nil =>
      rw [LineFramer.endingOf_done hlong] at hfire
      rw [hlong] at hreads₁
      rw [hfire, LineFramer.faultsOf, hlong]
      exact ⟨hpassed, hreads₁.congr hsame⟩
  | cons l ls =>
      rw [LineFramer.endingOf_failed hlong] at hfire
      rw [hlong] at hreads₁
      rcases h.report .channelInactive (f.tooLong l.body.length) hpassed.calm with
        ⟨hreport, hsame'⟩
      have hall := hpassed.trans hreport
      rw [List.append_nil] at hall
      rw [hfire, LineFramer.faultsOf, hlong]
      exact ⟨hall, (hreads₁.congr hsame).congr hsame'⟩

/-- The channel goes inactive. -/
theorem inactiveNow_reads :
    let w' := w.inactiveNow (respond user (depth + 1)) p
    o.calm w' ∧
      o.received w' = o.received w ++
        ((pending.takeWhile f.fits).map (f.frame order)).flatMap o.reading ∧
      o.raised w' = o.raised w ++ f.faultsOf pending ∧
      w'.Reads m.id f order (pending.dropWhile f.fits).tail left := by
  intro w'
  obtain ⟨w₀, hw₀⟩ : ∃ w₀, w₀ = w.updateActivation p ({ · with active := false }) := ⟨_, rfl⟩
  rcases h.retire hcalm with ⟨hcalm₀, hreceived₀, hraised₀⟩
  rw [← hw₀] at hcalm₀ hreceived₀ hraised₀
  have hreads₀ : w₀.Reads m.id f order pending left := hreads.congr (by rw [hw₀]; rfl)
  -- Going inactive is a change of the flags, and then a dispatch between two marks.
  have hmarked := h.mark p (.started .deactivated) hcalm₀
  rcases ended_reads h hmarked.calm hevents (hreads₀.congr rfl) hproper with ⟨hended, hreads₁⟩
  have hstep := h.between hcalm₀ hended (.finished .deactivated)
  have hstart : w' = w₀.start (respond user (depth + 1)) p .deactivated := hw₀ ▸ rfl
  rw [hstart, ← hreceived₀, ← hraised₀]
  exact ⟨hstep.calm, hstep.received, hstep.raised, hreads₁.congr rfl⟩

omit hproper in
/-- A chunk is added to what waits for the codec. -/
theorem feed_reads (htidy : w.Tidy m.id) {s : Sealed}
    (hintact : ¬ f.terminator.Severed f.maxLength left s.content)
    (hroom : (pending.flatMap Line.bytes ++ left ++ s.content).length ≤ Capacity.defaultMax) :
    let w' := w.feed (respond user (depth + 1)) p (.buffer s)
    o.Step p w w' [] [] ∧
      w'.Reads m.id f order (pending ++ (f.terminator.cut left s.content).1)
        (f.terminator.cut left s.content).2 := by
  intro w'
  have hknown := (h.hosts hcalm).known m List.mem_cons_self
  have htarget : w.inboundTarget p .start = .inbound m.id :=
    (h.hosts hcalm).inboundTarget_some (targets_head (by rw [hevents]; rfl))
  have hfeed : w' = w.updateContainer (.inbound m.id) (·.add (.buffer s)) := by
    change w.execute _ p (.feed (.buffer s)) = _
    rw [(h.ready hcalm).execute, runJob, htarget]
  have hcontext : w'.context m.id = { w.context m.id with
      inbound := (w.context m.id).inbound.add (.buffer s) } := by
    rw [hfeed]
    exact context_updateContext_self hknown _
  rcases hreads.owes with ⟨g, hrole, hfresh, howes⟩
  have hterminator : g.terminator = f.terminator := by
    have hsame := congrArg LineFramer.terminator hfresh
    exact hsame
  have hmaxLength : g.maxLength = f.maxLength := by
    have hsame := congrArg LineFramer.maxLength hfresh
    exact hsame
  rw [← hterminator, ← hmaxLength] at hintact
  have howes' := howes.append hintact
  rw [hterminator] at howes'
  -- What waits is not longer than the bytes of the stream that are still of interest.
  have hholds : (w.context m.id).inbound.Holds (w.context m.id).inbound.bytes.content [] :=
    ⟨⟨hreads.sound, rfl, htidy, hreads.maxCapacity⟩, hreads.messages⟩
  have hfits : ((w.context m.id).inbound.bytes.content ++ s.content).length ≤
      Capacity.defaultMax := by
    have hlen := howes.length_le
    rw [List.length_append] at hroom ⊢
    omega
  rcases hholds.add hfits with ⟨hadded, horder⟩
  refine ⟨by rw [hfeed]; exact h.own hcalm fun x => ⟨_, x.handler.role, rfl⟩,
    ⟨⟨g, ?_, hfresh, ?_⟩, ?_, ?_, ?_, ?_⟩⟩
  · rw [hcontext]
    exact hrole
  · rw [hcontext]
    change g.Owes ((w.context m.id).inbound.add (.buffer s)).bytes.content _ _
    rw [hadded.bytes.content]
    exact howes'
  · rw [hcontext]
    exact hadded.messages
  · rw [hcontext]
    exact hadded.bytes.sound
  · rw [hcontext]
    exact hadded.bytes.maxCapacity
  · rw [hcontext]
    exact horder.trans hreads.order

omit hproper in
/-- A chunk comes in while the channel is active: the codec makes a round over the lines that
    it owed and those that end in the chunk. -/
theorem receive_reads (htidy : w.Tidy m.id) (hactive : (w.pipeline p).activation.active = true)
    {s : Sealed} (hintact : ¬ f.terminator.Severed f.maxLength left s.content)
    (hroom : (pending.flatMap Line.bytes ++ left ++ s.content).length ≤ Capacity.defaultMax) :
    let due := pending ++ (f.terminator.cut left s.content).1
    (∀ l ∈ due, f.fits l = true → o.proper (f.frame order l)) →
    let w' := w.receive (respond user (depth + 1)) p (.buffer s)
    o.Step p w w' (((due.takeWhile f.fits).map (f.frame order)).flatMap o.reading)
        (f.faultsOf due) ∧
      w'.Reads m.id f order (due.dropWhile f.fits).tail (f.terminator.cut left s.content).2 ∧
      w'.Tidy m.id := by
  intro due hproper w'
  rcases feed_reads h hcalm hevents hreads htidy hintact hroom with ⟨hfed, hreads₁⟩
  obtain ⟨w₁, hw₁⟩ : ∃ w₁, w₁ = w.feed (respond user (depth + 1)) p (.buffer s) := ⟨_, rfl⟩
  rw [← hw₁] at hfed hreads₁
  obtain ⟨w₂, hw₂⟩ : ∃ w₂, w₂ = w₁.mark p (.fired .updated) := ⟨_, rfl⟩
  have hfired := h.mark p (.fired .updated) hfed.calm
  rw [← hw₂] at hfired
  have hactive₂ : (w₂.pipeline p).activation.active = true := by
    rw [hfired.activation, hfed.activation]
    exact hactive
  have hstart : w' = w₂.start (respond user (depth + 1)) p .updated := by
    change (w.feed _ p (.buffer s)).execute _ p .updated = _
    rw [← hw₁, (h.ready hfed.calm).execute, runJob, ← hw₂, updatedNow, if_pos hactive₂]
  -- Nothing but the framer reads from the container, however the news of the chunk gets there.
  have hmarked := h.mark p (.started .updated) hfired.calm
  rcases fireNow_reads h hmarked.calm hevents ((hreads₁.congr (hw₂ ▸ rfl)).congr rfl) hproper with
    ⟨hstep, hreads₂, htidy₂⟩
  have hall := (hfed.trans hfired).trans (h.between hfired.calm hstep (.finished .updated))
  rw [hstart]
  exact ⟨hall, hreads₂.congr rfl, htidy₂.congr rfl⟩

end World

end Conduit
