import Conduit.Proofs.Outside.Lineage

/-!
# Calls That Are Interrupted

Adding, removing and replacing a handler, when the hooks that this calls may do
anything. Each call is a few single changes with hooks between them. The hooks
keep the lineage, since everything that is called is taken to keep it; the single
changes keep it by `Lineage`; and what a call relies on after a hook is that the
context it has made has been left alone, which is part of the lineage too.

With that the circle closes: whatever code outside the library does is made of
calls that keep the lineage as long as the code outside does.

## Theorems

* `Descends.over`, `Descends.same`, `Lineage.refl`: Descent goes on.
* `unlink_absent`, `replace_refused`, `insert_refused`: A chain that refuses is unchanged.
* `Hosts.mem_of_unlink`: Whoever could be unlinked was there.
* `callHook_lineage`: A hook is a call like any other.
* `removeContext_lineage`, `removeFound_lineage`, `undoAdd_lineage`: Taking out.
* `addContext_descends`, `add_lineage`: Putting in a context that was made for it.
* `replaceAtEnd_descends`, `settleReplacement_lineage`, `replaceBetween_descends`,
  `replace_lineage`: Both ways of replacing.
* `lineage_abides`: Arbitrary handlers keep the lineage.
* `respond_lineage`: So it is kept by calls.
-/

namespace Conduit

open Roster

namespace World

variable {σ : Type} {w w₀ w₁ : World σ} {p : PipelineId} {c : ContextId} {n : Nat}
  {call : Caller σ}

/-- Descent goes on over whatever keeps the lineage. -/
theorem Descends.over (h : Descends n w₀ w) (hn : n ≤ w₀.contexts.length)
    (hnext : Lineage w w₁) : Descends n w₀ w₁ :=
  h.trans hn ((hnext h.sound).anti (Nat.le_trans hn h.grown))

/-- Descent does not see what leaves the structure alone. -/
theorem Descends.same (h : Descends n w₀ w) (hn : n ≤ w₀.contexts.length)
    (hsame : w₁.outline = w.outline) : Descends n w₀ w₁ :=
  h.trans hn (Descends.of_outline hsame h.sound)

theorem Lineage.refl (w : World σ) : Lineage w w := fun hw => Descends.of_outline rfl hw

theorem unlink_absent {chain : Chain} (h : (chain.unlink c).1 = false) :
    (chain.unlink c).2 = chain := by
  rw [Chain.unlink] at h ⊢
  cases hfind : chain.links.find? c with
  | none => rfl
  | some link =>
      rw [hfind] at h
      cases h

theorem Hosts.mem_of_unlink {l : Roster} (h : w.Hosts p l)
    (hdone : ((w.chain p).unlink c).1 = true) : c ∈ ids l := by
  by_contra hc
  have hagrees := (Chain.edit_agrees (e := .unlink c) h.holds trivial).2
  rw [Chain.edit, Roster.edit, if_neg hc] at hagrees
  simp only [hdone] at hagrees
  cases hagrees

theorem replace_refused {chain : Chain} {old : ContextId} {name : String} {events : EventSet}
    {cause : Error} (h : (chain.replace old c name events).1 = .error cause) :
    (chain.replace old c name events).2 = chain := by
  rw [Chain.replace] at h ⊢
  split at h
  · rfl
  · split at h
    · rename_i htaken
      rw [if_pos htaken]
    · cases h

theorem insert_refused {chain : Chain} {name : String} {events : EventSet} {position : Position}
    {cause : Error} (h : (chain.insert c name events position).1 = .error cause) :
    (chain.insert c name events position).2 = chain := by
  rw [Chain.insert] at h ⊢
  split at h
  · rfl
  · split at h
    · rfl
    · cases h

section Hooks

variable (hcall : Heeds Lineage call)
include hcall

/-- A hook is a call like any other. -/
theorem callHook_lineage (w : World σ) (c : ContextId) (hook : Hook) :
    Lineage w (w.callHook call c hook).2 :=
  hcall (.handler c (.hook hook)) w

/-! ### Taking out -/

theorem removeContext_lineage (w : World σ) (p : PipelineId) (c : ContextId) :
    Lineage w (w.removeContext call p c).2 := by
  intro hw
  have hbefore := callHook_lineage hcall w c .beforeRemove hw
  rw [removeContext]
  cases hhook : w.callHook call c .beforeRemove with
  | mk outcome w₁ =>
      rw [hhook] at hbefore
      cases outcome with
      | error cause => exact hbefore
      | ok _ =>
          dsimp only
          cases hunlink : (w₁.chain p).unlink c with
          | mk linked chain =>
              cases linked with
              | false =>
                  -- Somebody else has unlinked it, or nobody ever linked it.
                  have hsame : chain = w₁.chain p :=
                    (congrArg Prod.snd hunlink).symm.trans
                      (unlink_absent (congrArg Prod.fst hunlink))
                  rw [hsame]
                  exact hbefore.same (Nat.le_refl _) (outline_setChain_self w₁ p)
              | true =>
                  have hc : c ∈ ids (w₁.roster p) :=
                    (hbefore.sound p).mem_of_unlink (congrArg Prod.fst hunlink)
                  have hunlinked := Descends.unlinked hbefore.sound hc w.contexts.length
                  rw [hunlink] at hunlinked
                  have hafter := (hbefore.trans (Nat.le_refl _) hunlinked).over (Nat.le_refl _)
                    (callHook_lineage hcall _ c .afterRemove)
                  dsimp only at hafter ⊢
                  rw [if_neg (by decide)]
                  cases hhook' : (((w₁.setChain p chain).markRemoved c).callHook call c
                      .afterRemove) with
                  | mk outcome w₂ =>
                      rw [hhook'] at hafter
                      -- Whatever the last hook says, the context is gone.
                      cases outcome with
                      | error cause => exact hafter
                      | ok _ => exact hafter

theorem removeFound_lineage (w : World σ) (p : PipelineId) (found : Option ContextId)
    (absence : AbsenceFault) : Lineage w (w.removeFound call p found absence).2 := by
  cases found with
  | none => exact Lineage.refl w
  | some c => exact removeContext_lineage hcall w p c

/-! ### Putting in -/

variable [Journal σ]

theorem undoAdd_lineage (w : World σ) (p : PipelineId) (c : ContextId) (cause : Error) :
    Lineage w (w.undoAdd call p c cause).2 := by
  intro hw
  have hremoved := removeContext_lineage hcall w p c hw
  rw [undoAdd]
  cases hremove : w.removeContext call p c with
  | mk outcome w₁ =>
      rw [hremove] at hremoved
      cases outcome with
      | ok _ => exact hremoved
      | error second => exact hremoved.same (Nat.le_refl _) rfl

/-- A context that was made for it is linked, unless somebody objects. -/
theorem addContext_descends (h : Descends n w₀ w) (hn : n ≤ w₀.contexts.length)
    (hc : w.Loose p (w.roster p) c) (hfresh : n ≤ c) (position : Position) :
    Descends n w₀ (w.addContext call p position c).2 := by
  rw [addContext]
  cases (w.chain p).checkInsert (w.context c).name position with
  | error cause => exact h
  | ok _ =>
      have hhook := callHook_lineage hcall w c .beforeAdd
      dsimp only
      cases hbefore : w.callHook call c .beforeAdd with
      | mk outcome w₁ =>
          rw [hbefore] at hhook
          have h₁ := h.over hn hhook
          cases outcome with
          | error cause => exact h₁
          | ok _ =>
              -- The hook has left the context alone, whatever it did to the others.
              have hc₁ := (hhook h.sound).loose (Nat.le_refl _) hc.known hc
              have hoffered := Descends.offered h₁.sound hc₁ hfresh position
              have h₂ := h₁.trans hn hoffered
              dsimp only
              cases hinsert : (w₁.chain p).insert c (w₁.context c).name
                  (w₁.context c).handler.events position with
              | mk inserted chain =>
                  rw [hinsert] at h₂
                  cases inserted with
                  | error cause => exact h₂
                  | ok _ =>
                      have h₃ := h₂.over hn (callHook_lineage hcall _ c .afterAdd)
                      dsimp only at h₃ ⊢
                      cases hafter : (w₁.setChain p chain).callHook call c .afterAdd with
                      | mk outcome w₃ =>
                          rw [hafter] at h₃
                          cases outcome with
                          | ok _ => exact h₃
                          | error cause =>
                              exact h₃.over hn (undoAdd_lineage hcall w₃ p c cause)

theorem add_lineage (w : World σ) (p : PipelineId) (position : Position) (name : String)
    (handler : Handler) : Lineage w (w.add call p position name handler).2 := by
  intro hw
  rw [add]
  cases w.checkAdd p position name handler with
  | error cause => exact Descends.of_outline rfl hw
  | ok _ =>
      have hnew := Descends.newContext hw p name handler
      have hloose := hw.newContext_loose p name handler
      exact addContext_descends hcall hnew (Nat.le_refl _) hloose (Nat.le_refl _) position

/-! ### Replacing -/

variable {old new : ContextId}

theorem replaceAtEnd_descends (h : Descends n w₀ w) (hn : n ≤ w₀.contexts.length)
    (hnew : w.Loose p (w.roster p) new) (hfresh : n ≤ new) (position : Position) :
    Descends n w₀ (w.replaceAtEnd call p position old new).2 := by
  have hremove := removeContext_lineage hcall w p old
  rw [replaceAtEnd]
  cases hremoved : w.removeContext call p old with
  | mk outcome w₁ =>
      rw [hremoved] at hremove
      have h₁ := h.over hn hremove
      cases outcome with
      | error cause => exact h₁
      | ok _ =>
          -- Whatever the hooks of the removal did, they did not link a context made before them.
          have hnew₁ := (hremove h.sound).loose (Nat.le_refl _) hnew.known hnew
          exact addContext_descends hcall h₁ hn hnew₁ hfresh position

theorem settleReplacement_lineage (w : World σ) (old new : ContextId) :
    Lineage w (w.settleReplacement call old new).2 := by
  intro hw
  have hremoved := callHook_lineage hcall w old .afterRemove hw
  have hadded := hremoved.over (Nat.le_refl _) (callHook_lineage hcall _ new .afterAdd)
  rw [settleReplacement]
  dsimp only
  split
  · exact hadded
  · exact hadded
  · exact hadded
  · exact hadded.same (Nat.le_refl _) rfl

theorem replaceBetween_descends (h : Descends n w₀ w) (hn : n ≤ w₀.contexts.length)
    (hnew : w.Loose p (w.roster p) new) (hfresh : n ≤ new) :
    Descends n w₀ (w.replaceBetween call p old new).2 := by
  have hold := callHook_lineage hcall w old .beforeRemove
  rw [replaceBetween]
  cases hremove : w.callHook call old .beforeRemove with
  | mk outcome w₁ =>
      rw [hremove] at hold
      have h₁ := h.over hn hold
      cases outcome with
      | error cause => exact h₁
      | ok _ =>
          have hnew₁ := (hold h.sound).loose (Nat.le_refl _) hnew.known hnew
          have hhook := callHook_lineage hcall w₁ new .beforeAdd
          dsimp only
          cases hadd : w₁.callHook call new .beforeAdd with
          | mk outcome w₂ =>
              rw [hadd] at hhook
              have h₂ := h₁.over hn hhook
              cases outcome with
              | error cause => exact h₂
              | ok _ =>
                  have hnew₂ := (hhook h₁.sound).loose (Nat.le_refl _) hnew₁.known hnew₁
                  dsimp only
                  cases hreplace : (w₂.chain p).replace old new (w₂.context new).name
                      (w₂.context new).handler.events with
                  | mk replaced chain =>
                      cases replaced with
                      | error cause =>
                          have hsame : chain = w₂.chain p :=
                            (congrArg Prod.snd hreplace).symm.trans
                              (replace_refused (congrArg Prod.fst hreplace))
                          rw [hsame]
                          exact h₂.same hn (outline_setChain_self w₂ p)
                      | ok _ =>
                          -- The chain has exchanged them, and the hooks that follow are calls.
                          have hexchanged := Descends.exchanged h₂.sound hnew₂ hfresh
                            (congrArg Prod.fst hreplace)
                          rw [hreplace] at hexchanged
                          exact (h₂.trans hn hexchanged).over hn
                            (settleReplacement_lineage hcall _ old new)

theorem replace_lineage (w : World σ) (p : PipelineId) (oldName newName : String)
    (handler : Handler) : Lineage w (w.replace call p oldName newName handler).2 := by
  intro hw
  rw [replace]
  cases w.checkReplace p oldName newName handler with
  | error cause => exact Descends.of_outline rfl hw
  | ok old =>
      have hnew := Descends.newContext hw p newName handler
      have hloose := hw.newContext_loose p newName handler
      dsimp only
      split
      · exact replaceAtEnd_descends hcall hnew (Nat.le_refl _) hloose (Nat.le_refl _) .first
      · split
        · exact replaceAtEnd_descends hcall hnew (Nat.le_refl _) hloose (Nat.le_refl _) .last
        · exact replaceBetween_descends hcall hnew (Nat.le_refl _) hloose (Nat.le_refl _)

end Hooks

/-! ### Arbitrary handlers -/

variable [Journal σ]

/-- The library and arbitrary handlers keep the lineage. -/
theorem lineage_abides : Abides (Lineage (σ := σ)) where
  same := fun hsame hw => Descends.of_outline hsame hw
  trans := fun h h' hw => (h hw).over (Nat.le_refl _) h'
  move := by
    intro call hcall w p m
    cases m with
    | add position name handler => exact add_lineage hcall w p position name handler
    | remove name => exact removeFound_lineage hcall w p _ _
    | removeFirst => exact removeFound_lineage hcall w p _ _
    | removeLast => exact removeFound_lineage hcall w p _ _
    | removeHandler c => exact removeFound_lineage hcall w p _ _
    | replace oldName newName handler => exact replace_lineage hcall w p oldName newName handler

theorem respond_lineage (players : Players σ) (depth : Nat) :
    Heeds Lineage (respond players.play depth) :=
  lineage_abides.respond players depth

end World

end Conduit
