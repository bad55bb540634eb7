import Conduit.Proofs.World.Assembly

/-!
# Handlers with Nothing of Their Own

A handler that does what every handler does by default agrees to every hook, passes on
every event, and does nothing else. The collector of an embedded channel is another such
handler, but for the inbound events, which it keeps.

Hooks that agree are hooks without effect. So a call that rearranges a pipeline of such
handlers leaves the chain and the marks of its contexts to be looked at, and whatever comes
of it, not even a name that is taken already makes a difference to anything else. The only
other thing that it can leave behind is one new context, linked or not.

## Main definitions

* `Handler.IsInert`: A handler with nothing of its own.
* `World.Extends`: A world with at most one context more.

## Theorems

* `Handler.isInert_collector`, `isInert_of_housing`: Which handlers are inert, and stay so.
* `respond_inert`, `callHook_inert`: What such a handler answers.
* `removeContext_inert`, `addContext_inert`, `replaceAtEnd_inert`, `settleReplacement_inert`,
  `replaceBetween_inert`: What all calls are made of.
* `isInert_of_mem`, `removeFound_inert`, `replace_inert`, `add_inert`: Whole calls.
* `Extends.of_housing`, `Extends.of_newContext`: At most one context more.
* `move_inert`: What a call leaves behind.
-/

namespace Conduit

open Roster

/-- A handler that does only what every handler does by default, or collects for a transport. -/
def Handler.IsInert (handler : Handler) : Prop :=
  handler.role = .passive ∨ ∃ t, handler.role = .collector t

theorem Handler.isInert_collector (t : TransportId) : (Handler.collector t).IsInert :=
  Or.inr ⟨t, rfl⟩

namespace World

variable {σ : Type} {w w' : World σ} {p : PipelineId} {l : Roster} {c old new : ContextId}

/-- Handlers do not change as long as the housing does not. -/
theorem isInert_of_housing (h : (w.context c).handler.IsInert) (hhousing : w'.housing = w.housing) :
    (w'.context c).handler.IsInert := by
  rw [context_of_housing (f := Context.handler) (fun _ => rfl) hhousing]
  exact h

variable [Journal σ] (user : Caller σ → Caller σ) (depth : Nat)

/-- To anything but an inbound event an inert handler reacts by default. -/
theorem respond_inert (h : (w.context c).handler.IsInert) {callback : Callback}
    (hcallback : ∀ event, callback ≠ .inbound event) :
    respond user (depth + 1) (.handler c callback) w =
      (.ok (), w.byDefault (respond user depth) c callback) := by
  rw [respond, answer, handlerCalled]
  rcases h with hpassive | ⟨t, hcollector⟩
  · rw [hpassive]
  · rw [hcollector]
    cases callback with
    | inbound event => exact absurd rfl (hcallback event)
    | hook _ | outbound _ => rfl

theorem callHook_inert (h : (w.context c).handler.IsInert) (hook : Hook) :
    w.callHook (respond user (depth + 1)) c hook = (.ok (), w) := by
  rw [callHook, respond_inert user depth h fun _ he => by cases he]
  rfl

/-! ### Taking out and putting in -/

theorem removeContext_inert (h : (w.context c).handler.IsInert) :
    (w.removeContext (respond user (depth + 1)) p c).2.housing = w.housing := by
  rw [removeContext, callHook_inert user depth h]
  dsimp only
  rcases (w.chain p).unlink c with ⟨linked, chain⟩
  cases linked with
  | false => exact housing_setChain w p chain
  | true =>
      have hmarked : ((w.setChain p chain).markRemoved c).housing = w.housing :=
        (housing_markRemoved _ c).trans (housing_setChain w p chain)
      dsimp only
      rw [if_neg (by decide), callHook_inert user depth (isInert_of_housing h hmarked)]
      exact hmarked

theorem addContext_inert (h : (w.context c).handler.IsInert) (position : Position) :
    (w.addContext (respond user (depth + 1)) p position c).2.housing = w.housing := by
  rw [addContext]
  cases (w.chain p).checkInsert (w.context c).name position with
  | error cause => rfl
  | ok _ =>
      dsimp only
      rw [callHook_inert user depth h]
      dsimp only
      rcases (w.chain p).insert c (w.context c).name (w.context c).handler.events position with
        ⟨inserted, chain⟩
      have hlinked := housing_setChain w p chain
      cases inserted with
      | error cause => exact hlinked
      | ok _ =>
          dsimp only
          rw [callHook_inert user depth (isInert_of_housing h hlinked)]
          exact hlinked

/-! ### Replacing -/

section Replacing

variable (hold : (w.context old).handler.IsInert) (hnew : (w.context new).handler.IsInert)
include hold hnew

theorem replaceAtEnd_inert (position : Position) :
    (w.replaceAtEnd (respond user (depth + 1)) p position old new).2.housing = w.housing := by
  have hremoved := removeContext_inert (p := p) user depth hold
  rw [replaceAtEnd]
  cases hremove : w.removeContext (respond user (depth + 1)) p old with
  | mk outcome w₁ =>
      rw [hremove] at hremoved
      cases outcome with
      | error cause => exact hremoved
      | ok _ =>
          have hadded := addContext_inert (p := p) user depth (isInert_of_housing hnew hremoved)
            position
          exact hadded.trans hremoved

theorem settleReplacement_inert :
    w.settleReplacement (respond user (depth + 1)) old new = (.ok (), w) := by
  rw [settleReplacement, callHook_inert user depth hold]
  dsimp only
  rw [callHook_inert user depth hnew]

theorem replaceBetween_inert :
    (w.replaceBetween (respond user (depth + 1)) p old new).2.housing = w.housing := by
  rw [replaceBetween, callHook_inert user depth hold]
  dsimp only
  rw [callHook_inert user depth hnew]
  dsimp only
  rcases (w.chain p).replace old new (w.context new).name (w.context new).handler.events with
    ⟨replaced, chain⟩
  cases replaced with
  | error cause => exact housing_setChain w p chain
  | ok _ =>
      have hmarked : ((w.setChain p chain).markRemoved old).housing = w.housing :=
        (housing_markRemoved _ old).trans (housing_setChain w p chain)
      dsimp only
      rw [settleReplacement_inert user depth (isInert_of_housing hold hmarked)
        (isInert_of_housing hnew hmarked)]
      exact hmarked

end Replacing

/-! ### Whole calls -/

/-- A world with at most one context more, which is of an inert handler and has no data. But for
    chains, marks and the user's part it is otherwise as it was. -/
structure Extends (w w' : World σ) : Prop where
  housed : { w'.housing with contexts := [] } = { w.housing with contexts := [] }
  grown : w'.contexts.length ≤ w.contexts.length + 1
  known : ∀ c < w.contexts.length, (w'.context c).unmarked = (w.context c).unmarked
  joined : ∀ c < w'.contexts.length, w.contexts.length ≤ c →
    (w'.context c).handler.IsInert ∧ (w'.context c).inbound = Container.new ∧
      (w'.context c).outbound = Container.new

section Moving

variable (h : w.Hosts p l) (hinert : ∀ m ∈ l, (w.context m.id).handler.IsInert)
include h hinert

omit [Journal σ] user depth h in
theorem isInert_of_mem (hc : c ∈ ids l) : (w.context c).handler.IsInert := by
  rcases mem_ids.mp hc with ⟨m, hm, rfl⟩
  exact hinert m hm

omit h in
theorem removeFound_inert {found : Option ContextId} (hfound : ∀ c, found = some c → c ∈ ids l)
    (absence : AbsenceFault) :
    (w.removeFound (respond user (depth + 1)) p found absence).2.housing = w.housing := by
  cases found with
  | none => rfl
  | some c =>
      exact removeContext_inert user depth (isInert_of_mem hinert (hfound c rfl))

/-- A context that is replaced is a member, and the one that replaces it is new. -/
theorem replace_inert (oldName newName : String) {handler : Handler} (hhandler : handler.IsInert) :
    let w' := (w.replace (respond user (depth + 1)) p oldName newName handler).2
    w'.housing = w.housing ∨ w'.housing = (w.newContext p newName handler).2.housing := by
  intro w'
  cases hcheck : w.checkReplace p oldName newName handler with
  | error cause =>
      have hw' : w' = w := by simp only [w', replace, hcheck]
      exact Or.inl (hw' ▸ rfl)
  | ok old =>
      obtain ⟨n, hn⟩ : ∃ n, n = (w.newContext p newName handler).2 := ⟨_, rfl⟩
      -- The one that is replaced is a member, and it was known before the new one was made.
      have hmem := mem_of_checkReplace h hcheck
      have hold : (n.context old).handler.IsInert := by
        rcases mem_ids.mp hmem with ⟨m, hm, rfl⟩
        rw [hn, context_newContext (h.known m hm)]
        exact hinert m hm
      have hnew : (n.context w.contexts.length).handler.IsInert := by
        rw [hn, context_length_newContext]
        exact hhandler
      refine Or.inr ?_
      rw [← hn]
      have hreplace : w' = (if (n.chain p).isFirst old then
            n.replaceAtEnd (respond user (depth + 1)) p .first old w.contexts.length
          else if (n.chain p).isLast old then
            n.replaceAtEnd (respond user (depth + 1)) p .last old w.contexts.length
          else n.replaceBetween (respond user (depth + 1)) p old w.contexts.length).2 := by
        simp only [w', replace, hcheck, hn]
        rfl
      rw [hreplace]
      -- Which way it is done depends on where the old one is linked.
      by_cases hfirst : (n.chain p).isFirst old = true
      · rw [if_pos hfirst]
        exact replaceAtEnd_inert user depth hold hnew .first
      · rw [if_neg hfirst]
        by_cases hlast : (n.chain p).isLast old = true
        · rw [if_pos hlast]
          exact replaceAtEnd_inert user depth hold hnew .last
        · rw [if_neg hlast]
          exact replaceBetween_inert user depth hold hnew

omit h hinert in
theorem add_inert (position : Position) (name : String) {handler : Handler}
    (hhandler : handler.IsInert) :
    let w' := (w.add (respond user (depth + 1)) p position name handler).2
    w'.housing = w.housing ∨ w'.housing = (w.newContext p name handler).2.housing := by
  intro w'
  cases hcheck : w.checkAdd p position name handler with
  | error cause =>
      have hw' : w' = w := by simp only [w', add, hcheck]
      exact Or.inl (hw' ▸ rfl)
  | ok _ =>
      have hnew : ((w.newContext p name handler).2.context w.contexts.length).handler.IsInert := by
        rw [context_length_newContext]
        exact hhandler
      have hw' : w' = ((w.newContext p name handler).2.addContext (respond user (depth + 1)) p
          position w.contexts.length).2 := by
        simp only [w', add, hcheck]
        rfl
      exact Or.inr (hw' ▸ addContext_inert user depth hnew position)

omit h hinert [Journal σ] user depth in
theorem Extends.of_housing (hhousing : w'.housing = w.housing) : w.Extends w' where
  housed := by rw [hhousing]
  grown := Nat.le_succ_of_le (Nat.le_of_eq (length_contexts_of_housing hhousing))
  known := fun c _ => context_of_housing (f := Context.unmarked) (fun _ => rfl) hhousing c
  joined := fun c hc hnew => by
    rw [length_contexts_of_housing hhousing] at hc
    exact absurd hc (Nat.not_lt.mpr hnew)

omit h hinert [Journal σ] user depth in
theorem Extends.of_newContext {name : String} {handler : Handler} (hhandler : handler.IsInert)
    (hhousing : w'.housing = (w.newContext p name handler).2.housing) : w.Extends w' where
  housed := by
    rw [hhousing]
    rfl
  grown := by
    rw [length_contexts_of_housing hhousing, newContext, List.length_append]
    exact Nat.le_refl _
  known := fun c hc =>
    (context_of_housing (f := Context.unmarked) (fun _ => rfl) hhousing c).trans
      (congrArg Context.unmarked (context_newContext hc p name handler))
  joined := fun c hc hnew => by
    have hc' : c < w.contexts.length + 1 := by
      rw [length_contexts_of_housing hhousing, newContext, List.length_append] at hc
      exact hc
    -- There is one new context, and it has nothing in its containers yet.
    obtain rfl : c = w.contexts.length := Nat.le_antisymm (Nat.le_of_lt_succ hc') hnew
    rw [context_of_housing (f := Context.handler) (fun _ => rfl) hhousing,
      context_of_housing (f := Context.inbound) (fun _ => rfl) hhousing,
      context_of_housing (f := Context.outbound) (fun _ => rfl) hhousing,
      context_length_newContext]
    exact ⟨hhandler, rfl, rfl⟩

/-- A call that rearranges a pipeline of inert handlers leaves at most one new context behind. -/
theorem move_inert (m : Move) (hm : ∀ handler, m.handler? = some handler → handler.IsInert) :
    w.Extends (w.move (respond user (depth + 1)) p m) := by
  have hlinked := h.holds.linked
  cases m with
  | add position name handler =>
      have hhandler := hm handler rfl
      exact (add_inert user depth position name hhandler).elim .of_housing
        (.of_newContext hhandler)
  | remove name =>
      refine .of_housing (removeFound_inert user depth hinert (fun c hc => ?_) _)
      rw [Chain.find?] at hc
      -- Whoever is to be removed is looked up in the chain, and therefore a member.
      have hid : (w.chain p).idOf name = .ok c := by rw [Chain.idOf, hc]
      exact hlinked.mem_of_idOf hid
  | removeFirst =>
      refine .of_housing (removeFound_inert user depth hinert (fun c hc => ?_) _)
      rw [hlinked.head] at hc
      exact List.mem_of_head? hc
  | removeLast =>
      refine .of_housing (removeFound_inert user depth hinert (fun c hc => ?_) _)
      rw [hlinked.tail] at hc
      exact List.mem_of_getLast? hc
  | removeHandler d =>
      refine .of_housing (removeFound_inert user depth hinert (fun c hc => ?_) _)
      rw [← hlinked.lists.iterated]
      exact List.mem_of_find?_eq_some hc
  | replace oldName newName handler =>
      have hhandler := hm handler rfl
      exact (replace_inert user depth h hinert oldName newName hhandler).elim .of_housing
        (.of_newContext hhandler)

end Moving

end World

end Conduit
