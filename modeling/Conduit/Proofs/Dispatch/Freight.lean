import Conduit.Proofs.Dispatch.Opening

/-!
# All That Was Put In

What is true of a pipeline between the two ends of a transport whatever is done to it
from outside: messages are written and flushed at its tail, and fed in and announced at
its head, in any order and as often as one likes. As long as the handlers in between only
hand data on, or do not, all that was ever put in is still there, and in order. What the
transport has received comes first, and then what waits, from the end of the way back to
where the data came in.

The bytes of buffers run together on the way, so where one message ends and the next one
begins is not to be seen any more. Bytes are therefore compared as bytes, and everything
that is not a buffer as messages.

## Main definitions

* `Drive`: What is done to a pipeline from outside.
* `World.drive`, `World.drives`: Doing it.
* `Drive.given`: What is put in.

## Theorems

* `Load.length_le_with`: A load only gets greater.
* `announce_conveyed`, `feed_conveyed`: Data that is announced, and data that is fed in.
* `drive_conveyed`, `drives_conveyed`: What one drive does to the loads, and many.
* `row_outbound`, `row_inbound`, `Rigged.stops_collector`: The rows, written out.
* `drives_complete`: Nothing is lost, doubled or overtaken.
* `sampleFreight_idle`, `drives_complete_sampleFreight`: A handler that stops what it gets.
-/

namespace Conduit

/-- What is done to a pipeline from outside. -/
inductive Drive where
  /-- Adds a message to what waits at the tail, and flushes it. -/
  | write (msg : Message)
  | flush
  /-- Adds a message to what waits at the head. -/
  | feed (msg : Message)
  /-- Adds a message to what waits at the head, and announces it. -/
  | receive (msg : Message)
  | announce
  deriving Inhabited

/-- What is put in on a side. -/
def Drive.given : Drive → Side → List Message
  | write msg, .outbound => [msg]
  | feed msg, .inbound => [msg]
  | receive msg, .inbound => [msg]
  | _, _ => []

/-- A load is no greater than with messages put in behind it. -/
theorem Load.length_le_with (load : Load) (msgs : List Message) :
    load.bytes.length ≤ (load.with msgs).bytes.length := by
  rw [Load.with, List.length_append]
  exact Nat.le_add_right _ _

namespace World

variable {σ : Type} [Journal σ] {w : World σ} {p : PipelineId} {l : Roster} {x : Member}
  {t : TransportId} {load : Side → Load}

/-- Does something to a pipeline. -/
def drive (w : World σ) (call : Caller σ) (p : PipelineId) : Drive → World σ
  | .write msg => (w.write call p msg).2
  | .flush => (w.request call p .flush).2
  | .feed msg => w.feed call p msg
  | .receive msg => w.receive call p msg
  | .announce => w.fire call p .messageUpdated

/-- Does several things, one after the other. -/
def drives (w : World σ) (call : Caller σ) (p : PipelineId) (ds : List Drive) : World σ :=
  ds.foldl (fun w d => w.drive call p d) w

variable (porters : Porters σ) (depth : Nat)

/-- Data that is announced is conveyed. -/
theorem announce_conveyed (h : w.Conveying p l x t load)
    (hactive : (w.pipeline p).activation.active = true) :
    w.Conveyed (w.fire (respond porters.play depth) p .messageUpdated) p l x t load := by
  have hfire : w.fire (respond porters.play depth) p .messageUpdated =
      (w.mark p (.fired .updated)).start (respond porters.play depth) p .updated :=
    (h.rigged.ready.execute _ .updated).trans (if_pos hactive)
  rw [hfire]
  have hfired := h.mark p (.fired .updated)
  exact hfired.trans (start_conveyed porters depth hfired.conveying .updated)

/-- Data that is fed in comes behind all else. -/
theorem feed_conveyed (h : w.Conveying p l x t load) (call : Caller σ) (msg : Message)
    (hroom : ∀ side, ((load side).with ((Drive.feed msg).given side)).bytes.length ≤
      Capacity.defaultMax) :
    w.Conveyed (w.feed call p msg) p l x t fun side =>
      (load side).with ((Drive.feed msg).given side) := by
  have hgiven : ∀ side, (Drive.feed msg).given side = if side = .inbound then [msg] else [] := by
    intro side
    cases side <;> rfl
  simp only [hgiven] at hroom ⊢
  rw [World.feed, h.rigged.ready.execute]
  exact h.add .inbound msg hroom

/-- What is done to a pipeline adds what it puts in to the loads. -/
theorem drive_conveyed (h : w.Conveying p l x t load)
    (hactive : (w.pipeline p).activation.active = true) (d : Drive)
    (hroom : ∀ side, ((load side).with (d.given side)).bytes.length ≤ Capacity.defaultMax) :
    w.Conveyed (w.drive (respond porters.play depth) p d) p l x t fun side =>
      (load side).with (d.given side) := by
  have hnew := h.newPromise
  have hready := hnew.conveying.rigged.ready
  -- A drive that puts nothing in leaves the loads as they are.
  have hnothing : (fun side => (load side).with []) = load :=
    funext fun side => (load side).with_nil
  cases d with
  | write msg =>
      have hgiven : ∀ side, (Drive.write msg).given side =
          if side = .outbound then [msg] else [] := by
        intro side
        cases side <;> rfl
      simp only [hgiven] at hroom ⊢
      -- To write is to put the message in at the entry and to flush from there.
      have hadded := hnew.conveying.add .outbound msg hroom
      have hpromise := (promise_congr (congrArg World.promises (bare_updateContainer
        w.newPromise.2 (w.newPromise.2.target p .outbound .start) (·.add msg)))
        w.newPromise.1).trans (promise_newPromise w)
      have hsent := sendNow_conveyed porters depth _ .start w.newPromise.1 hadded.conveying hpromise
      have hwrite : w.drive (respond porters.play depth) p (.write msg) =
          (w.newPromise.2.updateContainer (w.newPromise.2.target p .outbound .start)
            (·.add msg)).sendNow (respond porters.play depth) p .start
              ⟨.flush, w.newPromise.1⟩ := hready.execute _ _
      rw [hwrite]
      exact (hnew.trans hadded).trans hsent
  | flush =>
      have hsent := sendNow_conveyed porters depth _ .start w.newPromise.1 hnew.conveying
        (promise_newPromise w)
      have hflush : w.drive (respond porters.play depth) p .flush =
          w.newPromise.2.sendNow (respond porters.play depth) p .start ⟨.flush, w.newPromise.1⟩ :=
        hready.execute _ _
      change w.Conveyed _ p l x t fun side => (load side).with []
      rw [hnothing, hflush]
      exact hnew.trans hsent
  | feed msg => exact feed_conveyed h _ msg hroom
  | receive msg =>
      have hsame : (Drive.receive msg).given = (Drive.feed msg).given := by
        funext side
        cases side <;> rfl
      rw [hsame] at hroom ⊢
      have hfed := feed_conveyed h (respond porters.play depth) msg hroom
      have hstill := (congrArg Activation.active hfed.activation).trans hactive
      exact hfed.trans (announce_conveyed porters depth hfed.conveying hstill)
  | announce =>
      change w.Conveyed _ p l x t fun side => (load side).with []
      rw [hnothing]
      exact announce_conveyed porters depth h hactive

/-- After everything that was done to a pipeline, what was put in has been added to the loads. -/
theorem drives_conveyed :
    ∀ (ds : List Drive) (w : World σ) (load : Side → Load), w.Conveying p l x t load →
      (w.pipeline p).activation.active = true →
      (∀ side, ((load side).with (ds.flatMap (·.given side))).bytes.length ≤
        Capacity.defaultMax) →
      w.Conveyed (w.drives (respond porters.play depth) p ds) p l x t fun side =>
        (load side).with (ds.flatMap (·.given side)) := by
  intro ds
  -- By induction on the drives; the loads grow with each, and so the room is for all of them.
  induction ds with
  | nil =>
      intro w load h _ _
      have hnothing : (fun side => (load side).with []) = load :=
        funext fun side => (load side).with_nil
      change w.Conveyed w p l x t fun side => (load side).with []
      rw [hnothing]
      exact h.refl
  | cons d ds ih =>
      intro w load h hactive hroom
      have hsplit : ∀ side, (load side).with ((d :: ds).flatMap (·.given side)) =
          ((load side).with (d.given side)).with (ds.flatMap (·.given side)) := by
        intro side
        rw [List.flatMap_cons, Load.with_append]
      simp only [hsplit] at hroom ⊢
      have hfirst := drive_conveyed porters depth h hactive d fun side =>
        Nat.le_trans (Load.length_le_with _ _) (hroom side)
      have hstill := (congrArg Activation.active hfirst.activation).trans hactive
      exact hfirst.trans (ih _ _ hfirst.conveying hstill hroom)

omit [Journal σ] in
/-- The outbound row, from the transport back to where messages are written. -/
theorem row_outbound (w : World σ) (p : PipelineId) (l : Roster) (t : TransportId) :
    w.row p l t .outbound = (w.transport t).outbound :: (w.pipeline p).sinkBuffer ::
      (l.filter (·.events.handles .flush)).map fun m => (w.context m.id).outbound := by
  rw [row, Side.route, Side.stops, Side.course, List.filter_reverse, List.map_reverse,
    List.reverse_reverse, List.map_append, List.map_map]
  rfl

omit [Journal σ] in
/-- The inbound row, from the transport back to where messages are fed in. -/
theorem row_inbound (w : World σ) (p : PipelineId) (l : Roster) (t : TransportId) :
    w.row p l t .inbound = (w.transport t).inbound ::
      (l.filter (·.events.handles .messageUpdated)).reverse.map
        fun m => (w.context m.id).inbound := by
  rw [row, Side.route, Side.stops, Side.course, ← List.map_reverse, List.map_append, List.map_map]
  rfl

omit [Journal σ] in
/-- A collector stands behind all others that take what is fed in, and takes nothing that is
    written. -/
theorem Rigged.stops_collector (h : w.Rigged p (l ++ [x]) x t) :
    (l ++ [x]).filter (·.events.handles .flush) = l.filter (·.events.handles .flush) ∧
      ((l ++ [x]).filter (·.events.handles .messageUpdated)).reverse =
        x :: (l.filter (·.events.handles .messageUpdated)).reverse := by
  have hout := h.hosts.handles_collector h.mem h.collector .flush
  have hin := h.hosts.handles_collector h.mem h.collector .messageUpdated
  constructor
  · rw [List.filter_append, List.filter_cons, if_neg (by rw [hout]; decide), List.filter_nil,
      List.append_nil]
  · rw [List.filter_append, List.filter_cons, if_pos (by rw [hin]; rfl), List.reverse_append]
    rfl

/-- An embedded channel is put on a pipeline, and then messages are written, flushed, fed in
    and announced in any order. Whichever handlers stop an event, or fail over it, or hand on
    the data without it, nothing is lost, doubled or overtaken. What the transport has got
    from the sink, then what waits for the sink and in the outbound containers from head to
    tail, is all that was written, in order: the bytes of buffers on the one hand and all
    other messages on the other. In the same way what the collector has received, then what
    waits in the inbound containers from the collector back to the head, is all that was fed
    in. -/
theorem drives_complete (h : w.Idle p l) (ds : List Drive)
    (hroom : ∀ side, ((ds.flatMap (·.given side)).flatMap Message.loose).length ≤
      Capacity.defaultMax) :
    let channel := w.openEmbedded (respond porters.play (depth + 1)) p .inline
    let w' := channel.2.drives (respond porters.play (depth + 1)) p ds
    let outbound := (w'.transport w.transports.length).outbound :: (w'.pipeline p).sinkBuffer ::
      (l.filter (·.events.handles .flush)).map fun m => (w'.context m.id).outbound
    let inbound := (w'.transport w.transports.length).inbound ::
      (w'.context w.collectorMember.id).inbound ::
        (l.filter (·.events.handles .messageUpdated)).reverse.map
          fun m => (w'.context m.id).inbound
    channel.1.isOk ∧ (w'.pipeline p).activation.active = true ∧
    (outbound.flatMap (·.bytes.content) =
        (ds.flatMap (·.given .outbound)).flatMap Message.loose ∧
      outbound.flatMap (·.messages) =
        (ds.flatMap (·.given .outbound)).flatMap Message.queued) ∧
    inbound.flatMap (·.bytes.content) = (ds.flatMap (·.given .inbound)).flatMap Message.loose ∧
      inbound.flatMap (·.messages) = (ds.flatMap (·.given .inbound)).flatMap Message.queued := by
  intro channel w' outbound inbound
  rcases openEmbedded_conveying porters depth h with ⟨ch, w₀, hopen, hstart, hactive⟩
  have hchannel : channel = (.ok ch, w₀) := hopen
  have hw' : w' = w₀.drives (respond porters.play (depth + 1)) p ds := by
    change channel.2.drives _ p ds = _
    rw [hchannel]
  have hend := drives_conveyed porters (depth + 1) ds w₀ _ hstart hactive hroom
  rw [← hw'] at hend
  have houtbound := hend.conveying.carry .outbound
  have hinbound := hend.conveying.carry .inbound
  -- What is conveyed is said of rows of places; here it is said of the members themselves.
  rcases hend.conveying.rigged.stops_collector with ⟨hflush, hupdated⟩
  rw [row_outbound, hflush] at houtbound
  rw [row_inbound, hupdated] at hinbound
  refine ⟨?_, ?_, ⟨houtbound.bytes, houtbound.messages⟩, hinbound.bytes, hinbound.messages⟩
  · rw [hchannel]
    rfl
  · rw [hend.activation]
    exact hactive

/-- Two contexts that data stops at on either side. -/
def sampleStops : List Edit :=
  [.insert ⟨0, "a", .ofList [.messageUpdated, .flush]⟩ .last,
    .insert ⟨1, "b", .ofList [.messageUpdated, .flush, .exceptionCaught]⟩ .last]

def sampleFreight : World Diary where
  pipelines := [{ chain := (Edit.run Chain.edit {} sampleStops).1 }]
  contexts :=
    [sampleContext "a" [.messageUpdated, .flush],
      sampleContext "b" [.messageUpdated, .flush, .exceptionCaught]]
  held := [.pipeline 0]
  user := {}

/-- The first handler hands on what it gets, and then fails over a flush and keeps any other
    event to itself. The second one does nothing over the first flush. -/
def samplePorters : Porters Diary := fun c callback w =>
  let errand : Errand :=
    match c, callback with
    | 0, .outbound _ => ⟨true, .fail .closed⟩
    | 0, .inbound .messageUpdated => ⟨true, .stop⟩
    | 1, .outbound _ => ⟨false, if w.user.calls.isEmpty then .stop else .proceed⟩
    | _, _ => ⟨false, .proceed⟩
  (errand, { w.user with calls := w.user.calls ++ [⟨c, callback⟩] })

def sampleDrives : List Drive :=
  [.write (.text "x"), .receive (.u8 7), .write (.text "y"),
    .receive (.buffer (.ofBytes .big [1, 2])), .announce]

theorem sampleFreight_idle : sampleFreight.Idle 0 (Edit.run Roster.edit [] sampleStops).1 where
  hosts :=
    { holds := (Chain.run_agrees sampleStops {} [] Chain.empty_holds (by decide)).1
      known := by decide
      pipeline := by decide
      name := by decide
      events := by decide
      linked := by decide }
  known := by decide
  plain := fun m hm => .inr ⟨0, by revert m; decide⟩
  free := by decide
  unattached := rfl
  asleep := rfl
  empty := fun m hm side => by
    rcases List.mem_pair.mp hm with rfl | rfl
    · cases side <;> exact Container.holds_new
    · cases side <;> exact Container.holds_new
  passing := Container.holds_new

/-- Both texts are on their way, the second one behind the first, and so are the number and the
    bytes on the other side. -/
theorem drives_complete_sampleFreight :
    let w := (sampleFreight.openEmbedded (respond samplePorters.play 9) 0 .inline).2.drives
      (respond samplePorters.play 9) 0 sampleDrives
    let outbound := [(w.transport 0).outbound, (w.pipeline 0).sinkBuffer,
      (w.context 0).outbound, (w.context 1).outbound]
    let inbound := [(w.transport 0).inbound, (w.context 2).inbound, (w.context 1).inbound,
      (w.context 0).inbound]
    outbound.flatMap (·.messages) = [.text "x", .text "y"] ∧
      inbound.flatMap (·.messages) = [.u8 7] ∧ inbound.flatMap (·.bytes.content) = [1, 2] := by
  have h := drives_complete samplePorters 8 sampleFreight_idle sampleDrives
    fun side => by cases side <;> decide
  rcases h with ⟨-, -, ⟨-, hwritten⟩, hbytes, hfed⟩
  exact ⟨hwritten.trans rfl, hfed.trans rfl, hbytes.trans rfl⟩

end World

end Conduit
