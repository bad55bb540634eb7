import Conduit.Proofs.Dispatch.Mooring
import Conduit.Proofs.World.Admission

/-!
# What a Failed Channel Leaves Behind

An embedded channel is put on a pipeline in two steps, and each may fail. The collector cannot
be added if its name is taken, and then nothing has been done. The pipeline cannot be attached
if it is already, and then the collector has been added; nobody takes it out again. So a
channel that fails may leave a handler behind, which takes what comes to the end of a pipeline
that is in use (`openEmbedded_litter`).

The attachment and how far the other channel has come to life are left alone either way.

## Theorems

* `add_collector_pipeline`: The collector is added, and all else is as it was.
* `openEmbedded_taken`, `openEmbedded_occupied`, `openEmbedded_vacant`: The three ways to end.
* `openEmbedded_residue`: When a channel fails, and what it leaves behind.
* `openEmbedded_residue_sampleOccupied`: A pipeline that has a channel already.
-/

namespace Conduit

open Roster

namespace World

variable {σ : Type} [Journal σ] {w : World σ} {p : PipelineId} {l : Roster}

/-- Where the name of the collector is taken, nothing is done. -/
theorem openEmbedded_taken (h : w.Hosts p l) (htaken : Handler.collectorName ∈ names l)
    (call : Caller σ) (loop : LoopKind) :
    w.openEmbedded call p loop =
      (.error (.argument (.duplicateName Handler.collectorName)), w.newTransport.2) := by
  have hhosts : w.newTransport.2.Hosts p l := h.congr rfl rfl
  have hentry : l.entry .last Handler.collectorName (.collector w.transports.length) =
      .error (.argument (.duplicateName Handler.collectorName)) := by
    rw [entry, if_neg (by decide), if_pos htaken]
  exact openEmbedded_unnamed (add_refused hhosts hentry call) loop

section Added

variable (h : w.Hosts p l) (hp : p < w.pipelines.length)
  (hfree : Handler.collectorName ∉ names l) (user : Caller σ → Caller σ) (depth : Nat)
  (loop : LoopKind)

include h hp hfree

/-- The collector is added, and all else of the pipeline is as it was. -/
theorem add_collector_pipeline :
    ∃ w₁, w.newTransport.2.add (respond user (depth + 1)) p .last Handler.collectorName
        (.collector w.transports.length) = (.ok (), w₁) ∧ w₁.Hosts p (l ++ [w.collectorMember]) ∧
      ∃ chain, w₁.pipeline p = { w.pipeline p with chain := chain } := by
  have hhosts : w.newTransport.2.Hosts p l := h.congr rfl rfl
  rcases add_collector hhosts hp hfree w.transports.length user depth with ⟨chain, hadd, hjoined⟩
  exact ⟨_, hadd, hjoined, chain, pipeline_updatePipeline_self hp _⟩

/-- Where the pipeline is attached already, the collector is added and stays. -/
theorem openEmbedded_occupied (hattached : (w.pipeline p).attachment ≠ none) :
    (w.openEmbedded (respond user (depth + 1)) p loop).1 =
        .error (.illegalState .alreadyAttached) ∧
      (w.openEmbedded (respond user (depth + 1)) p loop).2.Hosts p (l ++ [w.collectorMember]) ∧
      ∃ chain, (w.openEmbedded (respond user (depth + 1)) p loop).2.pipeline p =
        { w.pipeline p with chain := chain } := by
  rcases add_collector_pipeline h hp hfree user depth with ⟨w₁, hadd, hhosts, chain, hpipeline⟩
  rcases Option.ne_none_iff_exists'.mp hattached with ⟨a, ha⟩
  have hstill : (w₁.pipeline p).attachment = some a := by
    rw [hpipeline]
    exact ha
  rw [openEmbedded_attached hadd hstill loop]
  exact ⟨rfl, hhosts.congr rfl rfl, chain, hpipeline⟩

/-- Otherwise there is a channel. -/
theorem openEmbedded_vacant (hattached : (w.pipeline p).attachment = none) :
    (w.openEmbedded (respond user (depth + 1)) p loop).1.isOk = true := by
  rcases add_collector_pipeline h hp hfree user depth with ⟨w₁, hadd, -, chain, hpipeline⟩
  have hstill : (w₁.pipeline p).attachment = none := by
    rw [hpipeline]
    exact hattached
  rw [openEmbedded_lent hadd hstill loop]
  rfl

end Added

/-- A channel is put on a pipeline unless it is attached already or the name of the collector is
    taken. If it is not, the attachment and the activation are as they were; so is the roster if
    the name was taken, and otherwise the collector is left behind. -/
theorem openEmbedded_residue (h : w.Hosts p l) (hp : p < w.pipelines.length)
    (user : Caller σ → Caller σ) (depth : Nat) (loop : LoopKind) :
    let after := w.openEmbedded (respond user (depth + 1)) p loop
    (after.1.isOk = true ↔
        Handler.collectorName ∉ names l ∧ (w.pipeline p).attachment = none) ∧
      (after.1.isOk = false →
        (after.2.pipeline p).attachment = (w.pipeline p).attachment ∧
        (after.2.pipeline p).activation = (w.pipeline p).activation ∧
        after.2.Hosts p
          (if Handler.collectorName ∈ names l then l else l ++ [w.collectorMember]) ∧
        ((after.2.chain p).toList = (w.chain p).toList ↔ Handler.collectorName ∈ names l)) := by
  dsimp only
  by_cases htaken : Handler.collectorName ∈ names l
  · rw [openEmbedded_taken h htaken]
    refine ⟨iff_of_false Bool.false_ne_true fun hboth => hboth.1 htaken, fun _ => ?_⟩
    rw [if_pos htaken]
    exact ⟨rfl, rfl, h.congr rfl rfl, iff_of_true rfl htaken⟩
  · by_cases hattached : (w.pipeline p).attachment = none
    · have hok := openEmbedded_vacant h hp htaken user depth loop hattached
      exact ⟨iff_of_true hok ⟨htaken, hattached⟩, fun hfailed => nomatch hok.symm.trans hfailed⟩
    · -- The first step has been taken when the second one fails.
      rcases openEmbedded_occupied h hp htaken user depth loop hattached with
        ⟨hreply, hhosts, chain, hpipeline⟩
      rw [hreply, hpipeline, if_neg htaken]
      refine ⟨iff_of_false Bool.false_ne_true fun hboth => hattached hboth.2, fun _ => ?_⟩
      refine ⟨rfl, rfl, hhosts, iff_of_false ?_ htaken⟩
      rw [hhosts.holds.linked.lists.iterated, h.holds.linked.lists.iterated]
      simp

/-- A pipeline of three handlers that is attached to a channel of the user's. -/
def sampleOccupied : World Diary :=
  ((sampleStage.newChannel
    { pipeline := 0, loop := .inline, backing := .fixed 7 true true }).2.attach 0 0 .discarding).2

theorem openEmbedded_residue_sampleOccupied :
    sampleOccupied.Hosts 0 (Edit.run Roster.edit [] sampleEdits).1 ∧
      0 < sampleOccupied.pipelines.length ∧
      (sampleOccupied.openEmbedded (respond sampleCast.play 1) 0 .queued).1.isOk = false ∧
      (sampleOccupied.openEmbedded (respond sampleCast.play 1) 0 .queued).2.Hosts 0
        ((Edit.run Roster.edit [] sampleEdits).1 ++ [⟨3, "embedded-last-inbound", .inbound⟩]) := by
  have hhosts : sampleOccupied.Hosts 0 (Edit.run Roster.edit [] sampleEdits).1 :=
    sampleStage_staged.hosts.congr rfl rfl
  have h := openEmbedded_residue hhosts (by decide) sampleCast.play 0 .queued
  exact ⟨hhosts, by decide, rfl, (h.2 rfl).2.2.1⟩

/-- A channel that fails leaves its collector in a pipeline that is attached to another one. -/
theorem openEmbedded_litter :
    let (outcome, w) := sampleOccupied.openEmbedded (respond sampleCast.play 1) 0 .inline
    outcome = .error (.illegalState .alreadyAttached) ∧
      (sampleOccupied.chain 0).toList.map (fun c => (sampleOccupied.context c).name) =
        ["a", "b", "c"] ∧
      (w.chain 0).toList.map (fun c => (w.context c).name) =
        ["a", "b", "c", "embedded-last-inbound"] :=
  ⟨rfl, rfl, rfl⟩

end World

end Conduit
