import Conduit.Pipeline.Response
import Conduit.Proofs.World.Hosting

/-!
# Watching the Rest of a Pipeline

What can be said of a handler without saying anything of those past it in the
pipeline. They are called from within it, and while they are, they may do what they
like: keep what they are given, pass it on, or call the library themselves. What the
handler at the head has handed on can then be anywhere.

A watch is a way to tell all the same. It says of every world what the rest of the
pipeline has received, and what failures it has been told of. It may look for that
wherever such things are kept, and it may say of a message what has become of it, if
it is of a kind that the next handler knows what to do with.

A watch is only as good as the handlers that it watches. It is `Faithful` if they go
along: they leave the context at the head alone, and whatever is handed on to them,
or reported to them, turns up.

## Main definitions

* `Watch`: What is seen of the rest of a pipeline.
* `Watch.Step`: What is seen to happen from one world to a later one.
* `Watch.Faithful`: A watch over handlers that go along.

## Theorems

* `Watch.Step.refl`, `Watch.Step.trans`: Nothing, and one thing after the other.
* `Watch.Faithful.notices`, `Watch.Faithful.between`: What is taken down is not seen.
* `Watch.Faithful.handOn`: Messages that are handed on are received.
-/

namespace Conduit

/-- What is seen of the handlers past the first context of a pipeline. -/
structure Watch (σ β : Type) where
  /-- The handlers are at rest, and everything is in its place. -/
  calm : World σ → Prop
  /-- What they have received. -/
  received : World σ → List β
  /-- The failures that they were told of. -/
  raised : World σ → List Error
  /-- The next handler knows what to do with the message. -/
  proper : Message → Prop
  /-- What is received of a message. -/
  reading : Message → List β

/-- Nothing in a context is changed but what waits inbound, and what its handler keeps. -/
def Context.OwnChange (f : Context → Context) : Prop :=
  ∀ x, ∃ inbound role, f x = { x with inbound, handler := { x.handler with role } }

namespace Watch

variable {σ β : Type}

/-- From one world to a later one, the handlers have received `got`, and were told of
    `faults`. -/
structure Step (o : Watch σ β) (p : PipelineId) (w w' : World σ) (got : List β)
    (faults : List Error) : Prop where
  calm : o.calm w'
  received : o.received w' = o.received w ++ got
  raised : o.raised w' = o.raised w ++ faults
  activation : (w'.pipeline p).activation = (w.pipeline p).activation

/-- The handlers past the first context go along with what it does, and with what is done to
    its pipeline. Calls may be nested `depth` deep when it calls them. -/
structure Faithful [Journal σ] (o : Watch σ β) (user : Caller σ → Caller σ) (depth : Nat)
    (p : PipelineId) (m : Member) (rest : Roster) : Prop where
  hosts : ∀ {w}, o.calm w → w.Hosts p (m :: rest)
  ready : ∀ {w}, o.calm w → w.Ready p
  own : ∀ {w} {f}, o.calm w → Context.OwnChange f → o.Step p w (w.updateContext m.id f) [] []
  notice : ∀ {w} n, o.calm w → o.Step p w (w.notice n) [] []
  mark : ∀ {w} q n, o.calm w → o.Step p w (w.mark q n) [] []
  retire : ∀ {w}, o.calm w →
    let w' := w.updateActivation p ({ · with active := false })
    o.calm w' ∧ o.received w' = o.received w ∧ o.raised w' = o.raised w
  announce : ∀ {w} msgs, o.calm w → (∀ msg ∈ msgs, o.proper msg) →
    let w' := (w.updateContainer (w.nextInbound m.id) (·.pushAll msgs)).fireFrom
      (World.respond user depth) m.id .messageUpdated
    o.Step p w w' (msgs.flatMap o.reading) [] ∧ w'.context m.id = w.context m.id
  ended : ∀ {w}, o.calm w →
    let w' := w.fireFrom (World.respond user depth) m.id .channelInactive
    o.Step p w w' [] [] ∧ w'.context m.id = w.context m.id
  report : ∀ {w} kind cause, o.calm w →
    let w' := w.reportFailure (World.respond user (depth + 1)) p m.id kind cause
    o.Step p w w' [] [cause] ∧ w'.context m.id = w.context m.id

variable {o : Watch σ β} {p : PipelineId} {w w' w'' : World σ} {got more : List β}
  {faults others : List Error}

theorem Step.trans (h : o.Step p w w' got faults) (h' : o.Step p w' w'' more others) :
    o.Step p w w'' (got ++ more) (faults ++ others) where
  calm := h'.calm
  received := by rw [h'.received, h.received, List.append_assoc]
  raised := by rw [h'.raised, h.raised, List.append_assoc]
  activation := h'.activation.trans h.activation

/-- Nothing is seen where nothing happens. -/
theorem Step.refl (h : o.calm w) : o.Step p w w [] [] :=
  ⟨h, (List.append_nil _).symm, (List.append_nil _).symm, rfl⟩

variable [Journal σ] {user : Caller σ → Caller σ} {depth : Nat} {m : Member} {rest : Roster}

/-- Notices are not seen. -/
theorem Faithful.notices (h : o.Faithful user depth p m rest) (hcalm : o.calm w)
    (ns : List Notice) :
    o.Step p w (ns.foldl World.notice w) [] [] ∧
      (ns.foldl World.notice w).contexts = w.contexts := by
  induction ns generalizing w with
  | nil => exact ⟨Step.refl hcalm, rfl⟩
  | cons n ns ih =>
      have hnotice := h.notice n hcalm
      rcases ih hnotice.calm with ⟨hstep, hcontexts⟩
      exact ⟨hnotice.trans hstep, hcontexts⟩

/-- What is taken down of a channel before an event and after it is not seen. -/
theorem Faithful.between (h : o.Faithful user depth p m rest) (hcalm : o.calm w) {n : Mark}
    (hstep : o.Step p (w.mark p n) w' got faults) (n' : Mark) :
    o.Step p w (w'.mark p n') got faults := by
  have hall := ((h.mark p n hcalm).trans hstep).trans (h.mark p n' hstep.calm)
  rwa [List.append_nil, List.append_nil, List.nil_append, List.nil_append] at hall

/-- Messages that are handed on are received. -/
theorem Faithful.handOn (h : o.Faithful user depth p m rest) (hcalm : o.calm w)
    {msgs : List Message} (hproper : ∀ msg ∈ msgs, o.proper msg) :
    o.Step p w (w.handOn (World.respond user depth) m.id msgs) (msgs.flatMap o.reading) [] ∧
      (w.handOn (World.respond user depth) m.id msgs).context m.id = w.context m.id := by
  rw [World.handOn]
  cases msgs with
  | nil => exact ⟨Step.refl hcalm, rfl⟩
  | cons msg msgs => exact h.announce (msg :: msgs) hcalm hproper

end Watch

end Conduit
