import Conduit.Proofs.Outside.Heed

/-!
# What Rearranging a Pipeline Preserves

Adding, removing and replacing a handler changes the structure of a pipeline and calls
hooks. How far a channel has come to life does not depend on who handles its events, and
nothing of it is put on record, so a property that looks at the activations and the record
only is preserved by all of it, as long as the hooks preserve it.

## Main definitions

* `World.Vital`: A property of the activations and the record that calls preserve.

## Theorems

* `vitals_setChain`: A chain is not looked at.
* `Vital.callHook`, `Vital.removeContext`, `Vital.removeFound`, `Vital.undoAdd`,
  `Vital.addContext`, `Vital.add`, `Vital.replaceAtEnd`, `Vital.settleReplacement`,
  `Vital.replaceBetween`, `Vital.replace`, `Vital.move`: Rearranging a pipeline preserves it.
* `lt_length_pipelines`, `lt_length_of_life`, `lt_length_of_vitals`: Which pipelines there are.
* `pipelines_endure`: No pipeline is ever lost.
-/

namespace Conduit.World

variable {σ : Type} {w : World σ} {call : Caller σ} {I : World σ → Prop}

/-- A property that does not look past how far the channels have come to life and what is on
    record of that, and that whoever is called preserves. -/
structure Vital (I : World σ → Prop) (call : Caller σ) : Prop where
  same : ∀ {w w'}, I w → w'.vitals = w.vitals → I w'
  call : ∀ upcall w, I w → I (call upcall w).2

theorem vitals_setChain (w : World σ) (p : PipelineId) (chain : Chain) :
    (w.setChain p chain).vitals = w.vitals :=
  funext (vitals_updatePipeline (by intro x; rfl) w p)

namespace Vital

variable (h : Vital I call) (hw : I w)
include h hw

theorem callHook (c : ContextId) (hook : Hook) : I (w.callHook call c hook).2 :=
  h.call (.handler c (.hook hook)) w hw

theorem removeContext (p : PipelineId) (c : ContextId) : I (w.removeContext call p c).2 := by
  have hbefore := h.callHook hw c .beforeRemove
  rw [World.removeContext]
  cases hhook : w.callHook call c .beforeRemove with
  | mk outcome w₁ =>
      rw [hhook] at hbefore
      cases outcome with
      | error cause => exact hbefore
      | ok _ =>
          -- Whether the chain lets go of it or not, the chain is all that is stored.
          have hunlinked := h.same hbefore (vitals_setChain w₁ p ((w₁.chain p).unlink c).2)
          have hmarked : I ((w₁.setChain p ((w₁.chain p).unlink c).2).markRemoved c) :=
            h.same hunlinked rfl
          have hafter := h.callHook hmarked c .afterRemove
          dsimp only
          split
          · exact hunlinked
          · cases hhook' : ((w₁.setChain p ((w₁.chain p).unlink c).2).markRemoved c).callHook
                call c .afterRemove with
            | mk outcome w₂ =>
                rw [hhook'] at hafter
                cases outcome with
                | error cause => exact hafter
                | ok _ => exact hafter

theorem removeFound (p : PipelineId) (found : Option ContextId) (absence : AbsenceFault) :
    I (w.removeFound call p found absence).2 := by
  cases found with
  | none => exact hw
  | some c => exact h.removeContext hw p c

variable [Journal σ]

theorem undoAdd (p : PipelineId) (c : ContextId) (cause : Error) :
    I (w.undoAdd call p c cause).2 := by
  have hremoved := h.removeContext hw p c
  rw [World.undoAdd]
  cases hremove : w.removeContext call p c with
  | mk outcome w₁ =>
      rw [hremove] at hremoved
      cases outcome with
      | ok _ => exact hremoved
      | error second => exact h.same hremoved rfl

theorem addContext (p : PipelineId) (position : Position) (c : ContextId) :
    I (w.addContext call p position c).2 := by
  have hbefore := h.callHook hw c .beforeAdd
  rw [World.addContext]
  split
  · exact hw
  · cases hhook : w.callHook call c .beforeAdd with
    | mk outcome w₁ =>
        rw [hhook] at hbefore
        cases outcome with
        | error cause => exact hbefore
        | ok _ =>
            dsimp only
            cases hinsert : (w₁.chain p).insert c (w₁.context c).name
                (w₁.context c).handler.events position with
            | mk inserted chain =>
                -- A chain that refuses is stored as well, and is no more looked at.
                have hinserted := h.same hbefore (vitals_setChain w₁ p chain)
                cases inserted with
                | error cause => exact hinserted
                | ok _ =>
                    have hafter := h.callHook hinserted c .afterAdd
                    dsimp only
                    cases hhook' : (w₁.setChain p chain).callHook call c .afterAdd with
                    | mk outcome w₂ =>
                        rw [hhook'] at hafter
                        cases outcome with
                        | ok _ => exact hafter
                        | error cause => exact h.undoAdd hafter p c cause

theorem add (p : PipelineId) (position : Position) (name : String) (handler : Handler) :
    I (w.add call p position name handler).2 := by
  rw [World.add]
  split
  · exact hw
  · have hnew : I (w.newContext p name handler).2 := h.same hw rfl
    exact h.addContext hnew p position _

theorem replaceAtEnd (p : PipelineId) (position : Position) (old new : ContextId) :
    I (w.replaceAtEnd call p position old new).2 := by
  have hremoved := h.removeContext hw p old
  rw [World.replaceAtEnd]
  cases hremove : w.removeContext call p old with
  | mk outcome w₁ =>
      rw [hremove] at hremoved
      cases outcome with
      | error cause => exact hremoved
      | ok _ => exact h.addContext hremoved p position new

theorem settleReplacement (old new : ContextId) : I (w.settleReplacement call old new).2 := by
  have hadded := h.callHook (h.callHook hw old .afterRemove) new .afterAdd
  rw [World.settleReplacement]
  dsimp only
  split
  · exact hadded
  · exact hadded
  · exact hadded
  · exact h.same hadded rfl

theorem replaceBetween (p : PipelineId) (old new : ContextId) :
    I (w.replaceBetween call p old new).2 := by
  have hold := h.callHook hw old .beforeRemove
  rw [World.replaceBetween]
  cases hremove : w.callHook call old .beforeRemove with
  | mk outcome w₁ =>
      rw [hremove] at hold
      cases outcome with
      | error cause => exact hold
      | ok _ =>
          have hnew := h.callHook hold new .beforeAdd
          dsimp only
          cases hadd : w₁.callHook call new .beforeAdd with
          | mk outcome w₂ =>
              rw [hadd] at hnew
              cases outcome with
              | error cause => exact hnew
              | ok _ =>
                  dsimp only
                  cases hreplace : (w₂.chain p).replace old new (w₂.context new).name
                      (w₂.context new).handler.events with
                  | mk replaced chain =>
                      have hreplaced := h.same hnew (vitals_setChain w₂ p chain)
                      cases replaced with
                      | error cause => exact hreplaced
                      | ok _ =>
                          have hmarked : I ((w₂.setChain p chain).markRemoved old) :=
                            h.same hreplaced rfl
                          exact h.settleReplacement hmarked old new

theorem replace (p : PipelineId) (oldName newName : String) (handler : Handler) :
    I (w.replace call p oldName newName handler).2 := by
  rw [World.replace]
  split
  · exact hw
  · have hnew : I (w.newContext p newName handler).2 := h.same hw rfl
    dsimp only
    split
    · exact h.replaceAtEnd hnew p _ _ _
    · split
      · exact h.replaceAtEnd hnew p _ _ _
      · exact h.replaceBetween hnew p _ _

/-- Rearranging a pipeline preserves it. -/
theorem move (p : PipelineId) (m : Move) : I (w.move call p m) := by
  cases m with
  | add position name handler => exact h.add hw p position name handler
  | remove name => exact h.removeFound hw p _ _
  | removeFirst => exact h.removeFound hw p _ _
  | removeLast => exact h.removeFound hw p _ _
  | removeHandler c => exact h.removeFound hw p _ _
  | replace oldName newName handler => exact h.replace hw p oldName newName handler

end Vital

/-! ### Pipelines stay -/

theorem lt_length_pipelines {p : PipelineId} : p < w.pipelines.length ↔ (w.life p).isSome := by
  simp [life]

theorem lt_length_of_life {w' : World σ} (h : w'.life = w.life) {p : PipelineId}
    (hp : p < w.pipelines.length) : p < w'.pipelines.length := by
  rwa [lt_length_pipelines, h, ← lt_length_pipelines]

theorem lt_length_of_vitals {w' : World σ} (h : w'.vitals = w.vitals) {p : PipelineId}
    (hp : p < w.pipelines.length) : p < w'.pipelines.length :=
  lt_length_of_life (funext fun q => life_of_vitals (congrFun h q)) hp

/-- No pipeline is ever lost. -/
theorem pipelines_endure [Journal σ] :
    Endures fun w w' : World σ => ∀ p < w.pipelines.length, p < w'.pipelines.length where
  same := fun hsame _ => lt_length_of_life (funext (life_of_figure hsame))
  trans := fun h h' p hp => h' p (h p hp)
  pulse := by
    intro call hcall w p e q hq
    -- Pulses and moves are taken apart with the property, which speaks of one pipeline.
    have hstolid : Stolid (fun w' => q < w'.pipelines.length) call :=
      ⟨fun hw hsame => lt_length_of_life (funext (life_of_figure hsame)) hw,
        fun upcall w' hw => hcall upcall w' q hw⟩
    refine hstolid.pulse hq (fun w' f hw => ?_) (fun _ _ hw => hw) e
    rwa [updateActivation, updatePipeline, List.length_modify]
  move := by
    intro call hcall w p m q hq
    have hvital : Vital (fun w' => q < w'.pipelines.length) call :=
      ⟨fun hw hsame => lt_length_of_vitals hsame hw, fun upcall w' hw => hcall upcall w' q hw⟩
    exact hvital.move hq p m
  detach := by
    intro w p q hq
    rw [detach]
    cases (w.pipeline p).attachment with
    | none => exact hq
    | some _ => rwa [updatePipeline, List.length_modify]
  newPipeline := by
    intro w q hq
    rw [List.length_append]
    exact Nat.lt_add_right _ hq

end Conduit.World
