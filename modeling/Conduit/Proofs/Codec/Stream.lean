import Conduit.Proofs.Codec.Collector
import Conduit.Proofs.Codec.Lines

/-!
# A Stream through a Codec for Lines

A whole stream of bytes at the codec that cuts lines: its chunks come in one after
the other, and then the channel goes inactive. Each of these is an occasion for one
round, and a round does not get past a line that is too long. So the codec falls
behind when more than one long line ends in a chunk, and what it has not made up for
at the end is lost: lines that are not too long are not handed on, and of long lines
nobody is told. `unread` is what that comes to.

What it does get to is right. The lines are handed on in order, each once, and each
long line is reported once, whatever the chunks are and whatever the rest of the
pipeline does with the lines.

## Main definitions

* `Terminator.cutEach`: The lines that end in each of several chunks.
* `LineFramer.unread`: The lines that rounds do not get to.

## Theorems

* `Terminator.cutEach_flatten`: The chunks are cut where the whole stream is.
* `fits_of_mem_tail`: With one long line at a time, a round leaves no other.
* `unread_eq_nil`, `unread_eq_nil_of_fits`: Where the codec keeps up.
* `unread_concat`: What one more round makes up for.
* `Delivered.trans`, `delivered_paid`: What a round delivers, and what several do.
* `Delivered.unread_eq_nil`: Nothing else is delivered.
* `Fresh.reads`: Where a new codec stands.
* `stream_reads`: Chunks that come in one after the other.
* `stream_ended`: The channel goes inactive after them.
* `stream_newline`: A stream to its end.
* `holds_sampleChannel`, `sampleStream_collecting`: A channel with a codec for lines.
* `stream_newline_sampleStream`: A stream with which the codec keeps up.
* `stream_lost`: Two long lines in one chunk, and what is lost behind them.
-/

namespace Conduit

open Terminator

/-- The lines that end in each of several chunks, the first of which comes after `begun`, and
    what is left. -/
def Terminator.cutEach (t : Terminator) :
    (begun : Bytes) → List Bytes → List (List Line) × Bytes
  | begun, [] => ([], begun)
  | begun, chunk :: chunks =>
    let here := t.cut begun chunk
    let later := cutEach t here.2 chunks
    (here.1 :: later.1, later.2)

theorem Terminator.cutEach_flatten (t : Terminator) (begun : Bytes) (chunks : List Bytes) :
    t.cut begun chunks.flatten =
      ((t.cutEach begun chunks).1.flatten, (t.cutEach begun chunks).2) := by
  induction chunks generalizing begun with
  | nil => rfl
  | cons chunk chunks ih =>
      rw [List.flatten_cons, cut_append, ih]
      rfl

namespace LineFramer

/-- The lines that rounds do not get to, of which there is one after each arrival of lines. -/
def unread (f : LineFramer) : (pending : List Line) → List (List Line) → List Line
  | pending, [] => pending
  | pending, new :: later => unread f ((pending ++ new).dropWhile f.fits).tail later

/-- With at most one long line among some lines, a round leaves no other. -/
theorem fits_of_mem_tail {f : LineFramer} {lines : List Line}
    (hone : (lines.filter (!f.fits ·)).length ≤ 1) {l : Line}
    (hl : l ∈ (lines.dropWhile f.fits).tail) : f.fits l = true := by
  induction lines with
  | nil => exact absurd hl (by simp)
  | cons first lines ih =>
      cases hfits : f.fits first with
      | true =>
          rw [List.dropWhile_cons_of_pos hfits] at hl
          rw [List.filter_cons_of_neg (by rw [hfits]; simp)] at hone
          exact ih hone hl
      | false =>
          rw [List.dropWhile_cons_of_neg (by rw [hfits]; simp), List.tail_cons] at hl
          rw [List.filter_cons_of_pos (by rw [hfits]; rfl), List.length_cons] at hone
          -- This is the long line, and there is no second one.
          have hnone : lines.filter (!f.fits ·) = [] :=
            List.eq_nil_of_length_eq_zero (by omega)
          have hl' := List.filter_eq_nil_iff.mp hnone l hl
          simpa using hl'

/-- Where at most one long line arrives at a time, one more round gets to all lines. -/
theorem unread_eq_nil {f : LineFramer} {pending : List Line} {each : List (List Line)}
    (hpending : ∀ l ∈ pending, f.fits l = true)
    (hone : ∀ new ∈ each, (new.filter (!f.fits ·)).length ≤ 1) :
    f.unread pending (each ++ [[]]) = [] := by
  induction each generalizing pending with
  | nil =>
      rw [List.nil_append, unread, unread, List.append_nil, List.dropWhile_eq_nil_iff.mpr hpending]
      rfl
  | cons new each ih =>
      -- What waits is short, so a long line can only be a new one.
      have hsome : ((pending ++ new).filter (!f.fits ·)).length ≤ 1 := by
        have hnone : pending.filter (!f.fits ·) = [] := by
          rw [List.filter_eq_nil_iff]
          intro l hl
          rw [hpending l hl]
          simp
        rw [List.filter_append, hnone, List.nil_append]
        exact hone new List.mem_cons_self
      rw [List.cons_append, unread]
      exact ih (fun l hl => fits_of_mem_tail hsome hl)
        fun later hlater => hone later (List.mem_cons_of_mem new hlater)

/-- Where no long line arrives, the rounds get to all lines at once. -/
theorem unread_eq_nil_of_fits {f : LineFramer} {each : List (List Line)}
    (hfits : ∀ l ∈ each.flatten, f.fits l = true) : f.unread [] each = [] := by
  induction each with
  | nil => rfl
  | cons new each ih =>
      rw [List.flatten_cons] at hfits
      have hnew : new.dropWhile f.fits = [] :=
        List.dropWhile_eq_nil_iff.mpr fun l hl => hfits l (List.mem_append_left _ hl)
      rw [unread, List.nil_append, hnew]
      exact ih fun l hl => hfits l (List.mem_append_right _ hl)

theorem unread_concat (f : LineFramer) (pending : List Line) (each : List (List Line)) :
    f.unread pending (each ++ [[]]) = ((f.unread pending each).dropWhile f.fits).tail := by
  induction each generalizing pending with
  | nil => rw [List.nil_append, unread, unread, unread, List.append_nil]
  | cons new each ih => exact ih _

end LineFramer

namespace World

variable {σ β : Type} {o : Watch σ β} {user : Caller σ → Caller σ} {depth : Nat}
  {p : PipelineId} {m : Member} {rest : Roster} {w : World σ} {f : LineFramer}
  {order : ByteOrder} {pending : List Line} {left : Bytes}

/-- What has been seen of the lines that a codec has dealt with. -/
structure Delivered (o : Watch σ β) (f : LineFramer) (order : ByteOrder) (read : List Line)
    (w w' : World σ) : Prop where
  received : o.received w' =
    o.received w ++ ((read.filter f.fits).map (f.frame order)).flatMap o.reading
  raised : o.raised w' =
    o.raised w ++ (read.filter (!f.fits ·)).map fun l => f.tooLong l.body.length

theorem Delivered.trans {w' w'' : World σ} {a b : List Line} (h : Delivered o f order a w w')
    (h' : Delivered o f order b w' w'') : Delivered o f order (a ++ b) w w'' where
  received := by
    rw [h'.received, h.received, List.filter_append, List.map_append, List.flatMap_append,
      List.append_assoc]
  raised := by
    rw [h'.raised, h.raised, List.filter_append, List.map_append, List.append_assoc]

/-- A round delivers the lines that it deals with. -/
theorem delivered_paid {w' : World σ} (due : List Line)
    (hreceived : o.received w' =
      o.received w ++ ((due.takeWhile f.fits).map (f.frame order)).flatMap o.reading)
    (hraised : o.raised w' = o.raised w ++ f.faultsOf due) :
    Delivered o f order (f.paid due) w w' :=
  ⟨by rw [hreceived, (f.filter_paid due).1], by rw [hraised, (f.filter_paid due).2]⟩

/-- Nothing but the lines that were dealt with is delivered. -/
theorem Delivered.unread_eq_nil {w' : World σ} {read unread : List Line}
    (h : Delivered o f order read w w') (hall : Delivered o f order (read ++ unread) w w')
    (hplain : ∀ msg, o.reading msg ≠ []) : unread = [] := by
  have hreceived := h.received.symm.trans hall.received
  have hraised := h.raised.symm.trans hall.raised
  rw [List.filter_append, List.map_append, List.flatMap_append, ← List.append_assoc] at hreceived
  rw [List.filter_append, List.map_append, ← List.append_assoc] at hraised
  have hshort := List.self_eq_append_right.mp hreceived
  have hlong := List.map_eq_nil_iff.mp (List.self_eq_append_right.mp hraised)
  -- A line is short or long, and there are none of either kind.
  refine List.eq_nil_iff_forall_not_mem.mpr fun l hl => ?_
  cases hfits : f.fits l with
  | true =>
      have hmem : l ∈ unread.filter f.fits := List.mem_filter.mpr ⟨hl, hfits⟩
      exact hplain _ (List.flatMap_eq_nil_iff.mp hshort _ (List.mem_map_of_mem hmem))
  | false =>
      have hmem : l ∈ unread.filter (!f.fits ·) := List.mem_filter.mpr ⟨hl, by rw [hfits]; rfl⟩
      rw [hlong] at hmem
      exact absurd hmem List.not_mem_nil

/-- A codec cuts lines like `f`, and nothing has come in for it yet. -/
structure Fresh (w : World σ) (c : ContextId) (f : LineFramer) : Prop where
  role : (w.context c).handler.role = .lines f
  fresh : f.IsFresh
  inbound : (w.context c).inbound.Holds [] []

theorem Fresh.reads {c : ContextId} (h : w.Fresh c f) :
    w.Reads c f (w.context c).inbound.bytes.order [] [] ∧ w.Tidy c := by
  have howes := LineFramer.owes_fresh h.fresh (w.context c).inbound.bytes.content
  rw [h.inbound.bytes.content] at howes
  refine ⟨⟨⟨f, h.role, rfl, ?_⟩, h.inbound.messages, h.inbound.bytes.sound,
    h.inbound.bytes.maxCapacity, rfl⟩, h.inbound.bytes.front⟩
  rw [h.inbound.bytes.content]
  exact howes

variable [Journal σ]

/-- Chunks that come in one after the other. -/
def receiveAll (w : World σ) (call : Caller σ) (p : PipelineId) (chunks : List Sealed) : World σ :=
  chunks.foldl (fun w chunk => w.receive call p (.buffer chunk)) w

/-- Chunks that come in while the channel is active: what the codec has delivered then, and
    where it stands. -/
theorem stream_reads (h : o.Faithful user depth p m rest) (hevents : m.events = Decoder.events)
    {chunks : List Sealed} (hcalm : o.calm w) (hreads : w.Reads m.id f order pending left)
    (htidy : w.Tidy m.id) (hactive : (w.pipeline p).activation.active = true)
    (hintact : f.terminator.Intact f.maxLength left (chunks.map Sealed.content))
    (hroom : (pending.flatMap Line.bytes ++ left ++ (chunks.map Sealed.content).flatten).length ≤
      Capacity.defaultMax) :
    let each := f.terminator.cutEach left (chunks.map Sealed.content)
    (∀ l ∈ pending ++ each.1.flatten, f.fits l = true → o.proper (f.frame order l)) →
    let w' := w.receiveAll (respond user (depth + 1)) p chunks
    ∃ read, pending ++ each.1.flatten = read ++ f.unread pending each.1 ∧
      Delivered o f order read w w' ∧ o.calm w' ∧
      w'.Reads m.id f order (f.unread pending each.1) each.2 ∧ w'.Tidy m.id := by
  induction chunks generalizing w pending left with
  | nil =>
      intro each hproper w'
      refine ⟨[], ?_, ⟨?_, ?_⟩, hcalm, hreads, htidy⟩
      · exact List.append_nil _
      · exact (List.append_nil _).symm
      · exact (List.append_nil _).symm
  | cons chunk chunks ih =>
      intro each hproper w'
      -- The lines that are due are those that waited and those that end in this chunk.
      obtain ⟨due, hdue⟩ : ∃ due, due = pending ++ (f.terminator.cut left chunk.content).1 :=
        ⟨_, rfl⟩
      have hflatten := cut_flatten f.terminator left chunk.content
      have hlater : pending ++ each.1.flatten =
          due ++ (f.terminator.cutEach (f.terminator.cut left chunk.content).2
            (chunks.map Sealed.content)).1.flatten := by
        rw [hdue, List.append_assoc]
        rfl
      rw [List.map_cons, List.flatten_cons] at hroom
      rw [hlater] at hproper
      have hroom₁ : (pending.flatMap Line.bytes ++ left ++ chunk.content).length ≤
          Capacity.defaultMax := by
        simp only [List.length_append] at hroom ⊢
        omega
      have hround := receive_reads h hcalm hevents hreads htidy hactive hintact.1 hroom₁
      rw [← hdue] at hround
      rcases hround fun l hl => hproper l (List.mem_append_left _ hl) with ⟨hstep, hreads₁, htidy₁⟩
      have hpaid := f.paid_append due
      -- What the codec still owes is part of what has come in.
      have hroom₂ : ((due.dropWhile f.fits).tail.flatMap Line.bytes ++
          (f.terminator.cut left chunk.content).2 ++
          (chunks.map Sealed.content).flatten).length ≤ Capacity.defaultMax := by
        have hlen := congrArg List.length hflatten
        have hsame := congrArg (fun ls => (ls.flatMap Line.bytes).length) hpaid
        simp only [hdue, List.flatMap_append, List.length_append] at hlen hsame hroom ⊢
        omega
      rcases ih hstep.calm hreads₁ htidy₁ (hstep.activation ▸ hactive) hintact.2 hroom₂
        (fun l hl hfits => hproper l (by
          rcases List.mem_append.mp hl with hl | hl
          · refine List.mem_append_left _ ?_
            rw [← hpaid]
            exact List.mem_append_right _ hl
          · exact List.mem_append_right _ hl) hfits) with ⟨read, hread, hdelivered, hfinal⟩
      refine ⟨f.paid due ++ read, ?_,
        (delivered_paid due hstep.received hstep.raised).trans hdelivered, ?_⟩
      · have hrest := congrArg (f.paid due ++ ·) hread
        rw [← List.append_assoc, ← List.append_assoc, hpaid, ← hlater] at hrest
        rw [hrest, hdue]
        rfl
      · rw [hdue] at hfinal
        exact hfinal

/-- A stream to its end: once its chunks have come in and the channel has gone inactive, the
    lines that were dealt with are delivered, and the others lie there. -/
theorem stream_ended (h : o.Faithful user depth p m rest) (hevents : m.events = Decoder.events)
    (hproper : ∀ msg, o.proper msg) {chunks : List Sealed} (hcalm : o.calm w)
    (hreads : w.Reads m.id f order [] []) (htidy : w.Tidy m.id)
    (hactive : (w.pipeline p).activation.active = true)
    (hintact : f.terminator.Intact f.maxLength [] (chunks.map Sealed.content))
    (hroom : (chunks.map Sealed.content).flatten.length ≤ Capacity.defaultMax) :
    let each := f.terminator.cutEach [] (chunks.map Sealed.content)
    let w' := (w.receiveAll (respond user (depth + 1)) p chunks).fire (respond user (depth + 1)) p
      .channelInactive
    ∃ read, each.1.flatten = read ++ f.unread [] (each.1 ++ [[]]) ∧
      Delivered o f order read w w' ∧
      w'.Reads m.id f order (f.unread [] (each.1 ++ [[]])) each.2 := by
  intro each w'
  rcases stream_reads h hevents hcalm hreads htidy hactive hintact hroom
    (fun _ _ _ => hproper _) with ⟨read, hread, hdelivered, hcalm₁, hreads₁, -⟩
  obtain ⟨w₁, hw₁⟩ : ∃ w₁, w₁ = w.receiveAll (respond user (depth + 1)) p chunks := ⟨_, rfl⟩
  change w₁ = _ at hw₁
  rw [← hw₁] at hdelivered hcalm₁ hreads₁
  -- The end of the stream is an occasion for one more round, over what is owed by then.
  have hfire : w' = (w₁.mark p (.fired .deactivated)).inactiveNow (respond user (depth + 1)) p := by
    change (w.receiveAll _ p chunks).execute _ p .inactive = _
    rw [← hw₁, (h.ready hcalm₁).execute, runJob]
  have hfired := h.mark p (.fired .deactivated) hcalm₁
  rcases inactiveNow_reads h hfired.calm hevents (hreads₁.congr rfl) (fun _ _ _ => hproper _) with
    ⟨-, hreceived, hraised, hreads₂⟩
  rw [← hfire] at hreceived hraised hreads₂
  rw [hfired.received, List.append_nil] at hreceived
  rw [hfired.raised, List.append_nil] at hraised
  rw [LineFramer.unread_concat]
  refine ⟨read ++ f.paid (f.unread [] each.1), ?_,
    hdelivered.trans (delivered_paid _ hreceived hraised), hreads₂⟩
  rw [List.append_assoc, f.paid_append]
  exact hread

/-- A stream of lines that end in line feeds, to its end. What has come to the next handler
    are the lines that are not too long, in order, and it was told of each one that is; but
    only for the lines that the codec got to. It gets to all of them if no two long lines end
    in one chunk. Otherwise there are lines for which it has no round left. -/
theorem stream_newline (h : o.Faithful user depth p m rest) (hevents : m.events = Decoder.events)
    (hproper : ∀ msg, o.proper msg) (hplain : ∀ msg, o.reading msg ≠ [])
    (hcalm : o.calm w) (hfresh : w.Fresh m.id f) (hterminator : f.terminator = .newline)
    (hactive : (w.pipeline p).activation.active = true) (chunks : List Sealed)
    (hroom : (chunks.map Sealed.content).flatten.length ≤ Capacity.defaultMax) :
    let order := (w.context m.id).inbound.bytes.order
    let lines := (newline.cut [] (chunks.map Sealed.content).flatten).1
    let each := (newline.cutEach [] (chunks.map Sealed.content)).1
    let w' := (w.receiveAll (respond user (depth + 1)) p chunks).fire (respond user (depth + 1)) p
      .channelInactive
    (∃ read, lines = read ++ f.unread [] (each ++ [[]]) ∧ Delivered o f order read w w') ∧
      (Delivered o f order lines w w' ↔ f.unread [] (each ++ [[]]) = []) ∧
      ((∀ new ∈ each, (new.filter (!f.fits ·)).length ≤ 1) → Delivered o f order lines w w') := by
  intro order lines each w'
  have hlines : lines = each.flatten := congrArg Prod.fst (newline.cutEach_flatten [] _)
  have hintact := intact_newline f.maxLength [] (chunks.map Sealed.content)
  rw [← hterminator] at hintact
  have hended := stream_ended h hevents hproper hcalm hfresh.reads.1 hfresh.reads.2 hactive
    hintact hroom
  rw [hterminator] at hended
  rcases hended with ⟨read, hread, hdelivered, -⟩
  rw [← hlines] at hread
  -- The end of the stream is one more chunk without bytes, and gives one more round.
  have hall : f.unread [] (each ++ [[]]) = [] → Delivered o f order lines w w' := by
    intro hnone
    rw [hread, hnone, List.append_nil]
    exact hdelivered
  refine ⟨⟨read, hread, hdelivered⟩, ⟨fun hlines => ?_, hall⟩, fun hone => hall ?_⟩
  · rw [hread] at hlines
    exact hdelivered.unread_eq_nil hlines hplain
  · exact LineFramer.unread_eq_nil (fun l hl => absurd hl List.not_mem_nil) hone

/-- All notices, in order. -/
instance : Journal (List Notice) where
  record n notices := notices ++ [n]

/-- An active channel with some handlers in its pipeline. -/
def sampleChannel (handlers : List (String × Handler)) : World (List Notice) where
  pipelines :=
    [{ chain := (Edit.run Chain.edit {} (handlers.mapIdx fun i h =>
         .insert ⟨i, h.1, h.2.events⟩ .last)).1
       attachment := some { channel := 0, sink := .embedded 0, loop := .inline }
       activation := { opened := true, active := true } }]
  contexts := handlers.map fun h => { pipeline := 0, name := h.1, handler := h.2 }
  transports := [{}]
  held := [.pipeline 0]
  user := []

/-- Nothing waits anywhere in such a channel. -/
theorem holds_sampleChannel (handlers : List (String × Handler)) (place : Place) :
    ((sampleChannel handlers).container place).Holds [] [] := by
  cases place with
  | inbound c | outbound c =>
      rw [container, context, sampleChannel, List.getElem?_map]
      cases handlers[c]? with
      | none => exact Container.holds_new
      | some h => exact Container.holds_new
  | tail p | sink p =>
      cases p with
      | zero => exact Container.holds_new
      | succ p => exact Container.holds_new
  | nowhere => exact Container.holds_new

/-- A codec that cuts lines. -/
def sampleFramer (f : LineFramer) : Handler where
  typeName := Decoder.lines.handlerType
  events := Decoder.events
  role := .lines f

/-- A codec for lines of at most four bytes, before a collector. -/
def sampleStream : World (List Notice) :=
  sampleChannel [("framer", sampleFramer { maxLength := 4, strip := true, terminator := .newline }),
    (Handler.collectorName, Handler.collector 0)]

/-- The chunks of a stream come in, and then the channel goes inactive. -/
def sampleRun (chunks : List Sealed) : World (List Notice) :=
  let call := respond (fun _ _ w => (.ok (), w)) 2
  (sampleStream.receiveAll call 0 chunks).fire call 0 .channelInactive

theorem sampleStream_collecting :
    sampleStream.Collecting 0 [⟨0, "framer", Decoder.events⟩, ⟨1, Handler.collectorName, .inbound⟩]
      ⟨1, Handler.collectorName, .inbound⟩ 0 where
  hosts :=
    { holds := (Chain.run_agrees _ {} [] Chain.empty_holds (by decide)).1
      known := by decide
      pipeline := by decide
      name := by decide
      events := by decide
      linked := by decide }
  ready := ⟨rfl, rfl⟩
  mem := by decide
  handler := rfl
  wired := by decide
  waiting := holds_sampleChannel _ (.inbound 1)
  kept := Container.holds_new.bytes

/-- A long line and a short one, in two chunks. -/
def sampleChunks : List Sealed :=
  [.ofBytes .big [0x74, 0x6f, 0x6f], .ofBytes .big [0x6c, 0x6f, 0x6e, 0x67, 0x0a, 0x6f, 0x6b, 0x0a]]

/-- One long line in a chunk does no harm. -/
theorem stream_newline_sampleStream :
    let w := sampleRun sampleChunks
    (w.transport 0).inbound.messages = [.buffer (.ofBytes .big [0x6f, 0x6b])] ∧
      (w.transport 0).exceptions.map Error.unwrapped = [.decode (.overLong 7 4)] := by
  intro w
  have hfaithful := collector_faithful (p := 0) (m := ⟨0, "framer", Decoder.events⟩)
    (x := ⟨1, Handler.collectorName, .inbound⟩) (t := 0)
    (fun _ _ (w : World (List Notice)) => (.ok (), w)) 0 rfl
  have hfresh : sampleStream.Fresh 0 { maxLength := 4, strip := true, terminator := .newline } :=
    ⟨rfl, ⟨rfl, rfl⟩, Container.holds_new⟩
  have hstream := stream_newline hfaithful rfl (fun _ => trivial) (fun _ => List.cons_ne_nil _ _)
    sampleStream_collecting hfresh rfl rfl sampleChunks (by decide)
  -- The first line is too long, and the second one is in the same chunk.
  have hlines : (newline.cut [] (sampleChunks.map Sealed.content).flatten).1 =
      [⟨[0x74, 0x6f, 0x6f, 0x6c, 0x6f, 0x6e, 0x67], [0x0a]⟩, ⟨[0x6f, 0x6b], [0x0a]⟩] := by decide
  have hdelivered := hstream.2.2 (by decide)
  rw [hlines] at hdelivered
  change Delivered _ _ _ _ _ w at hdelivered
  have hreceived := hdelivered.received
  have hraised := hdelivered.raised
  dsimp only [Watch.collector, Watch.transport] at hreceived hraised
  constructor
  · rw [hreceived]
    rfl
  · rw [hraised]
    rfl

/-- Two long lines in a chunk: the line after them is short, and it never comes. -/
theorem stream_lost :
    let stream := [0x74, 0x6f, 0x6f, 0x6c, 0x6f, 0x6e, 0x67, 0x0a, 0x74, 0x6f, 0x6f, 0x6c, 0x6f,
      0x6e, 0x67, 0x0a, 0x6f, 0x6b, 0x0a]
    let w := sampleRun [.ofBytes .big stream]
    (newline.cut [] stream).1.map Line.body =
        [[0x74, 0x6f, 0x6f, 0x6c, 0x6f, 0x6e, 0x67], [0x74, 0x6f, 0x6f, 0x6c, 0x6f, 0x6e, 0x67],
          [0x6f, 0x6b]] ∧
      (w.transport 0).inbound.messages.length = 0 ∧ (w.transport 0).exceptions.length = 2 := by
  decide +kernel

end World

end Conduit
