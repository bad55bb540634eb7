import Conduit.Proofs.Dispatch.Mooring

/-!
# Written to Whom

What becomes of messages that are written to a pipeline over its whole life. It is put on
channels and taken off again, its handlers come and go, collectors of channels that are gone
among them, and at any time somebody may write. The handlers do only what every handler does
by default.

A message goes where it should go at once or never. If there is a channel, the message comes
to the transport of that channel, and if there is none, the write fails and the message is
gone. It does not wait anywhere in the meantime, so no channel that comes later finds it, and
no other handler. Since that is so after every call, it takes no more than the lemma for one
call and an induction on the calls.

A call is nested once for each member that a flush passes, and all that is ever written may
come together in one buffer. `Due` says that both are provided for.

## Main definitions

* `Chore`: What is done to a pipeline.
* `World.chore`, `World.chores`: Doing it.
* `World.sentTo`: What is written while a pipeline is attached to some transport.
* `World.Emptied`: No data waits in a pipeline.
* `World.Due`: A pipeline that something is still to be done to.

## Theorems

* `Calm.emptied`: Nothing waits in a calm pipeline.
* `Due.chore`: One chore.
* `Due.chores`: Several of them.
* `chores_delivered`: Every message comes to the channel of its time, or to none.
* `sampleQuay_calm`, `chores_delivered_sampleChores`: Two channels, one after the other.
-/

namespace Conduit

/-- What is done to a pipeline of handlers that do nothing of their own. -/
inductive Chore where
  /-- Puts a new embedded channel on the pipeline, if it has none. -/
  | attach
  | detach
  /-- Adds, removes or replaces a handler. A handler that is added does only what every handler
      does by default. -/
  | rearrange (m : Move) (idle : ∀ handler, m.handler? = some handler → handler.role = .passive)
  | write (msg : Message)
  | flush

/-- What is written. -/
def Chore.given : Chore → List Message
  | write msg => [msg]
  | _ => []

namespace World

variable {σ : Type} [Journal σ] {w w' : World σ} {p : PipelineId} {c : Chore}
  {rest cs : List Chore} {depth : Nat}

def chore (w : World σ) (call : Caller σ) (p : PipelineId) : Chore → World σ
  | .attach => (w.openEmbedded call p .inline).2
  | .detach => w.detach p
  | .rearrange m _ => w.move call p m
  | .write msg => (w.write call p msg).2
  | .flush => (w.request call p .flush).2

/-- Does one chore after the other. -/
def chores (w : World σ) (call : Caller σ) (p : PipelineId) (cs : List Chore) : World σ :=
  cs.foldl (fun w c => w.chore call p c) w

/-- The messages that are written while a pipeline is attached to the channel of a transport. -/
def sentTo (w : World σ) (call : Caller σ) (p : PipelineId) (t : TransportId) :
    List Chore → List Message
  | [] => []
  | c :: cs =>
    (if w.berth p = some t then c.given else []) ++ (w.chore call p c).sentTo call p t cs

omit [Journal σ] in
/-- No data waits for any member of a pipeline, nor for its sink. -/
def Emptied (w : World σ) (p : PipelineId) : Prop :=
  (∀ c ∈ (w.chain p).toList,
    (w.context c).inbound.isEmpty = true ∧ (w.context c).outbound.isEmpty = true) ∧
  (w.pipeline p).sinkBuffer.isEmpty = true

/-- A calm pipeline that something is still to be done to. Calls may be nested as deep as that
    needs, and no transport is going to overflow. -/
structure Due (w : World σ) (p : PipelineId) (cs : List Chore) (depth : Nat) : Prop where
  calm : w.Calm p
  deep : w.contexts.length + cs.length < depth
  room : ∀ t, ((w.transport t).outbound.bytes.content ++
    (cs.flatMap Chore.given).flatMap Message.loose).length ≤ Capacity.defaultMax

omit [Journal σ] in
theorem Calm.emptied (h : w.Calm p) : w.Emptied p := by
  refine ⟨fun c hc => ?_, (h.empty (.sink p) rfl).isEmpty⟩
  rw [← ids_roster] at hc
  exact ⟨(h.empty (.inbound c) hc).isEmpty, (h.empty (.outbound c) hc).isEmpty⟩

/-- A chore leaves the pipeline calm, and what it gives comes to the transport of the time. -/
theorem Due.chore (h : w.Due p (c :: rest) depth) (players : Players σ) :
    w.Passed (w.chore (respond players.play depth) p c) p c.given ∧
      (w.chore (respond players.play depth) p c).Due p rest depth := by
  have hdeep := h.deep
  rw [List.length_cons] at hdeep
  have hdepth : w.contexts.length < depth := by omega
  -- Room is counted for all chores together, so there is room for the first one.
  have hroom : ∀ t, ((w.transport t).outbound.bytes.content ++
      (c.given.flatMap Message.loose ++ (rest.flatMap Chore.given).flatMap Message.loose)).length ≤
        Capacity.defaultMax := by
    intro t
    rw [← List.flatMap_append, ← List.flatMap_cons]
    exact h.room t
  have hpassed : w.Passed (w.chore (respond players.play depth) p c) p c.given := by
    cases c with
    | attach => exact h.calm.openEmbedded players hdepth
    | detach => exact h.calm.detach
    | rearrange m idle =>
        obtain ⟨d, rfl⟩ : ∃ d, depth = d + 1 :=
          Nat.exists_eq_add_one_of_ne_zero (Nat.ne_zero_of_lt hdepth)
        exact (h.calm.move players d m fun handler hm => Or.inl (idle handler hm)).1
    | write msg =>
        refine (h.calm.write players hdepth msg fun t => ?_).1
        have hfits := hroom t
        rw [Chore.given, List.flatMap_singleton] at hfits
        simp only [List.length_append] at hfits ⊢
        omega
    | flush =>
        refine h.calm.flush players hdepth fun t => ?_
        have hfits := hroom t
        rw [List.length_append] at hfits
        omega
  refine ⟨hpassed, hpassed.calm, ?_, fun t => ?_⟩
  · have hgrown := hpassed.grown
    omega
  · -- What has come to a transport was counted before as something that will.
    have hfits := hroom t
    rw [hpassed.bytes t]
    by_cases ht : w.berth p = some t
    · rw [if_pos ht, List.append_assoc]
      exact hfits
    · rw [if_neg ht, List.flatMap_nil, List.append_nil]
      simp only [List.length_append] at hfits ⊢
      omega

/-- Chores leave the pipeline calm, and what they give comes to the transports of the time. -/
theorem Due.chores (players : Players σ) :
    ∀ (before : List Chore) (w : World σ), w.Due p (before ++ rest) depth →
      let w' := w.chores (respond players.play depth) p before
      w'.Due p rest depth ∧ ∀ t,
        (w'.transport t).outbound.bytes.content = (w.transport t).outbound.bytes.content ++
          (w.sentTo (respond players.play depth) p t before).flatMap Message.loose ∧
        (w'.transport t).outbound.messages = (w.transport t).outbound.messages ++
          (w.sentTo (respond players.play depth) p t before).flatMap Message.queued ∧
        (w'.transport t).inbound = (w.transport t).inbound := by
  intro before
  induction before with
  | nil =>
      intro w h
      exact ⟨h, fun t => ⟨(List.append_nil _).symm, (List.append_nil _).symm, rfl⟩⟩
  | cons c before ih =>
      intro w h
      -- What the first chore gives comes to the transport of its time, before all that follows.
      rcases h.chore players with ⟨hpassed, hdue⟩
      rcases ih _ hdue with ⟨hlater, hsent⟩
      refine ⟨hlater, fun t => ?_⟩
      rcases hsent t with ⟨hbytes, hmessages, hinbound⟩
      refine ⟨?_, ?_, hinbound.trans (hpassed.inbound t)⟩
      · refine hbytes.trans ?_
        rw [hpassed.bytes t, sentTo, List.flatMap_append, List.append_assoc]
      · refine hmessages.trans ?_
        rw [hpassed.messages t, sentTo, List.flatMap_append, List.append_assoc]

/-- A pipeline of handlers that do nothing of their own is put on embedded channels and taken off
    again, its handlers are changed, and messages are written and flushed, in any order. A
    message that is written while there is no channel fails for want of one, and one that is
    written while there is one succeeds. After every call nothing waits in the pipeline. And in
    the end every transport has got exactly those messages that were written while the pipeline
    was attached to its channel, in order. -/
theorem chores_delivered (players : Players σ) (h : w.Due p cs depth) :
    let call := respond players.play depth
    (∀ before msg after, cs = before ++ .write msg :: after →
      let w' := w.chores call p before
      let written := w'.write call p msg
      ((w'.pipeline p).attachment = none → w'.berth p = none ∧
        (written.2.promise written.1).outcome = some (.error (.noHandler "flush"))) ∧
      ∀ a, (w'.pipeline p).attachment = some a → (w'.berth p).isSome ∧
        (written.2.promise written.1).outcome = some (.ok ())) ∧
    (∀ before after, cs = before ++ after → (w.chores call p before).Emptied p) ∧
    ∀ t,
      ((w.chores call p cs).transport t).outbound.bytes.content =
        (w.transport t).outbound.bytes.content ++
          (w.sentTo call p t cs).flatMap Message.loose ∧
      ((w.chores call p cs).transport t).outbound.messages =
        (w.transport t).outbound.messages ++
          (w.sentTo call p t cs).flatMap Message.queued ∧
      ((w.chores call p cs).transport t).inbound = (w.transport t).inbound := by
  intro call
  refine ⟨?_, ?_, ?_⟩
  · rintro before msg after rfl w' written
    have hdue : w'.Due p (.write msg :: after) depth := (Due.chores players before w h).1
    have hdeep := hdue.deep
    -- What is still due fits, and the message is the first of that.
    have hroom : ∀ t, ((w'.transport t).outbound.bytes.content ++ msg.loose).length ≤
        Capacity.defaultMax := by
      intro t
      have hfits := hdue.room t
      rw [List.flatMap_cons, List.flatMap_append, Chore.given, List.flatMap_singleton] at hfits
      simp only [List.length_append] at hfits ⊢
      omega
    have houtcome : (written.2.promise written.1).outcome =
        some (verdict (w'.berth p) ⟨.flush, written.1⟩) :=
      (hdue.calm.write players (Nat.lt_of_le_of_lt (Nat.le_add_right _ _) hdeep) msg hroom).2
    rcases hdue.calm.moored.cases with ⟨hnone, hberth, -, -⟩ | ⟨a, t, hsome, hberth, -, -, -⟩
    · rw [hberth] at houtcome
      refine ⟨fun _ => ⟨hberth, houtcome⟩, fun a ha => ?_⟩
      rw [hnone] at ha
      cases ha
    · rw [hberth] at houtcome
      refine ⟨fun hnone => ?_, fun _ _ => ⟨by rw [hberth]; rfl, houtcome⟩⟩
      rw [hnone] at hsome
      cases hsome
  · rintro before after rfl
    exact (Due.chores players before w h).1.calm.emptied
  · rw [← List.append_nil cs] at h
    exact (Due.chores players cs w h).2

/-- An empty pipeline that somebody holds. -/
def sampleQuay : World Diary where
  pipelines := [{}]
  held := [.pipeline 0]
  user := {}

def sampleRelay : Handler where
  typeName := "Relay"
  events := .ofList [.messageUpdated, .flush]
  role := .passive

/-- Something is written before there is a channel, to the first one, between the two, and to the
    second one, while the collector of the first one stays for some time. -/
def sampleChores : List Chore :=
  [.rearrange (.add .last "relay" sampleRelay) (fun _ h => by cases h; rfl),
    .write (.buffer (.ofBytes .big [1])), .attach, .write (.buffer (.ofBytes .big [2])), .detach,
    .write (.buffer (.ofBytes .big [3])),
    .rearrange (.remove Handler.collectorName) (fun _ h => by cases h),
    .attach, .flush, .write (.buffer (.ofBytes .big [4, 5]))]

theorem sampleQuay_calm : sampleQuay.Calm 0 where
  sound := sound_of fun p hp => by
    obtain rfl : p = 0 := Nat.lt_one_iff.mp hp
    exact ⟨[], Chain.empty_holds, by simp, by simp, by simp, by simp, by simp⟩
  known := by decide
  held := by decide
  inert := fun m hm => by cases hm
  empty := fun place hplace => by
    cases place with
    | sink q =>
        obtain rfl : q = 0 := hplace
        exact Container.holds_new
    | inbound c | outbound c => cases hplace
    | tail q | nowhere => exact absurd hplace id
  awake := ⟨rfl, rfl⟩
  moored := fun a ha => by cases ha
  kept := fun t => Container.holds_new.self

/-- What was written early or late is nowhere, and of the rest each channel has its own. -/
theorem chores_delivered_sampleChores :
    let players : Players Diary := fun _ _ => .finish (.ok ())
    let w := sampleQuay.chores (respond players.play 12) 0 sampleChores
    sampleQuay.Due 0 sampleChores 12 ∧ (w.transport 0).outbound.bytes.content = [2] ∧
      (w.transport 1).outbound.bytes.content = [4, 5] ∧ w.Emptied 0 := by
  intro players w
  have hnothing : ∀ t, (sampleQuay.transport t).outbound.bytes.content = [] :=
    fun _ => Container.holds_new.bytes.content
  have hdue : sampleQuay.Due 0 sampleChores 12 := by
    refine ⟨sampleQuay_calm, by decide, fun t => ?_⟩
    rw [hnothing]
    decide
  rcases chores_delivered players hdue with ⟨-, hemptied, hsent⟩
  have hfirst : (sampleQuay.sentTo (respond players.play 12) 0 0 sampleChores).flatMap
      Message.loose = [2] := by decide +kernel
  have hsecond : (sampleQuay.sentTo (respond players.play 12) 0 1 sampleChores).flatMap
      Message.loose = [4, 5] := by decide +kernel
  refine ⟨hdue, ?_, ?_, hemptied _ [] (List.append_nil _).symm⟩
  · rw [(hsent 0).1, hnothing, hfirst]
    rfl
  · rw [(hsent 1).1, hnothing, hsecond]
    rfl

end World

end Conduit
