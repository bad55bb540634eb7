import Conduit.Proofs.Result
import Conduit.Proofs.World.Housing

/-!
# Assembling Pipelines

The calls that rearrange a pipeline. Adding, removing and replacing a handler call
hooks before and after they change the chain, and any hook may object. What comes of
the call then differs a good deal, down to a handler that can neither stay nor go; but
each of the ways it may end is a few chain edits and marks apart from where it began,
and `Housing` says that those keep a pipeline hosted.

What is said here takes the hooks to be aloof: they may object, and see to business of
their own, but they leave the world alone.

## Main definitions

* `Move`: A call that rearranges a pipeline.
* `World.Aloof`: Hooks that leave the world alone.
* `World.move`: Such a call on a pipeline.

## Theorems

* `removeContext_hosts`: Whatever the hooks say, a pipeline is hosted after a removal.
* `settleReplacement_user`: The last hooks of a replacement change nothing.
* `mem_of_checkReplace`: What is to be replaced is linked.
-/

namespace Conduit

open Roster

/-- A call that rearranges a pipeline. -/
inductive Move where
  | add (position : Position) (name : String) (handler : Handler)
  | remove (name : String)
  | removeFirst
  | removeLast
  | removeHandler (c : ContextId)
  | replace (oldName newName : String) (handler : Handler)
  deriving DecidableEq, Repr, Inhabited

/-- The handler that a call brings. -/
def Move.handler? : Move → Option Handler
  | add _ _ h => some h
  | replace _ _ h => some h
  | _ => none

namespace World

variable {σ : Type} {w w' : World σ} {p : PipelineId} {l : Roster} {c : ContextId}
  {call : Caller σ}

/-- Hooks leave the world alone, whatever they answer. -/
def Aloof (call : Caller σ) : Prop :=
  ∀ (c : ContextId) (hook : Hook) (w : World σ),
    ∃ outcome user, call (.handler c (.hook hook)) w = (outcome, w.setUser user)

/-- Rearranges a pipeline. -/
def move [Journal σ] (w : World σ) (call : Caller σ) (p : PipelineId) : Move → World σ
  | .add position name h => (w.add call p position name h).2
  | .remove name => (w.remove call p name).2
  | .removeFirst => (w.removeFirst call p).2
  | .removeLast => (w.removeLast call p).2
  | .removeHandler c => (w.removeHandler call p c).2
  | .replace oldName newName h => (w.replace call p oldName newName h).2

/-! ### Taking out -/

theorem removeContext_hosts (ha : Aloof call) (hp : p < w.pipelines.length) (h : w.Hosts p l)
    (c : ContextId) :
    ∃ l', w.Settled p l' (w.removeContext call p c).2 ∧ (∀ m ∈ l', m ∈ l) ∧
      ∀ d, c ≠ d → ((w.removeContext call p c).2.context d).removed =
        (w.context d).removed := by
  rcases ha c .beforeRemove w with ⟨outcome, user, hbefore⟩
  cases outcome with
  | error cause =>
      -- The handler has objected, and nothing has been done yet.
      simp only [removeContext, callHook, hbefore]
      exact ⟨l, ⟨h.setUser user, rfl⟩, fun _ hm => hm, fun _ _ => rfl⟩
  | ok _ =>
      -- The chain is asked to let go, whether or not the context is linked.
      have hunlinked := (h.setUser user).unlinked hp c
      have hrest : ∀ m ∈ (l.edit (.unlink c)).1, m ∈ l := fun m hm =>
        (mem_edit hm).elim id fun hbrings => nomatch hbrings
      cases hunlink : ((w.setUser user).chain p).unlink c with
      | mk linked chain =>
          rw [hunlink] at hunlinked
          cases linked with
          | false =>
              simp only [removeContext, callHook, hbefore, hunlink]
              exact ⟨_, ⟨hunlinked.hosts, hunlinked.housing⟩, hrest, fun _ _ => rfl⟩
          | true =>
              rcases ha c .afterRemove (((w.setUser user).setChain p chain).markRemoved c) with
                ⟨outcome', user', hafter⟩
              have hsettled : w.Settled p (l.edit (.unlink c)).1
                  ((((w.setUser user).setChain p chain).markRemoved c).setUser user') :=
                ⟨(hunlinked.hosts.markRemoved (not_mem_unlink l c)).setUser user',
                  (housing_markRemoved _ c).trans hunlinked.housing⟩
              have hkept : ∀ d, c ≠ d →
                  ((((w.setUser user).setChain p chain).markRemoved c).context d).removed =
                    (w.context d).removed :=
                fun d hd => congrArg Context.removed (context_updateContext_ne hd _)
              refine ⟨(l.edit (.unlink c)).1, ?_⟩
              -- Whatever the last hook says, the context is gone.
              cases outcome' with
              | error cause =>
                  simp only [removeContext, callHook, hbefore, hunlink, hafter]
                  exact ⟨hsettled, hrest, hkept⟩
              | ok _ =>
                  simp only [removeContext, callHook, hbefore, hunlink, hafter]
                  exact ⟨hsettled, hrest, hkept⟩

/-! ### Replacing -/

variable [Journal σ]

/-- The last two hooks of a replacement may object, and nothing comes of it. -/
theorem settleReplacement_user (ha : Aloof call) (w : World σ) (old new : ContextId) :
    ∃ user, (w.settleReplacement call old new).2 = w.setUser user := by
  -- All four answers lead to the same world, but for the user's part.
  rcases ha old .afterRemove w with ⟨removed, user, hremoved⟩
  rcases ha new .afterAdd (w.setUser user) with ⟨added, user', hadded⟩
  simp only [settleReplacement, callHook, hremoved, hadded]
  rcases removed with _ | _ <;> rcases added with _ | _ <;> exact ⟨_, rfl⟩

omit [Journal σ] in
/-- What is to be replaced was found by its name, so it is linked. -/
theorem mem_of_checkReplace (h : w.Hosts p l) {oldName newName : String} {handler : Handler}
    {old : ContextId} (hcheck : w.checkReplace p oldName newName handler = .ok old) :
    old ∈ ids l := by
  rcases ok_of_bind hcheck with ⟨_, -, hlookup⟩
  rcases ok_of_bind hlookup with ⟨found, hfound, hrest⟩
  by_cases htaken : newName ≠ oldName ∧ (w.chain p).names.contains newName = true
  · rw [if_pos htaken] at hrest
    exact nomatch hrest
  · rw [if_neg htaken] at hrest
    rcases ok_of_bind hrest with ⟨_, -, hdone⟩
    have hsame : found = old := by simpa [pure, Except.pure] using hdone
    exact hsame ▸ h.holds.linked.mem_of_idOf hfound

end World

end Conduit
