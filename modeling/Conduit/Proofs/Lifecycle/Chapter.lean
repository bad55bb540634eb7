import Conduit.Proofs.Lifecycle.Shift
import Conduit.Proofs.Outside.Vital

/-!
# Calls as Chapters

Adding, removing and replacing, with notes taken of the hooks. To any context each such call
is a chapter of its story: what is told in it is complete, so every passage is framed, and
the passages are counted. A call consists of hooks, which are chapters since whoever answers
them makes calls again, and of one shift at most, framed by hooks.

A shift leaves no note of itself. It is seen by the next hook, and in a call there always is
one: so a hook is judged from the world that was seen last, before the shift. The other way
for a call to end is that the chain refuses, and then nothing has changed.

## Main definitions

* `World.Chapter`: What becomes of a context in a part of a run.
* `World.Scribe`: A caller who takes notes.

## Theorems

* `Founded.of_length`: A sound world with as many pipelines.
* `Chapter.trans`, `Chapter.quiet`, `Chapter.same`, `Chapter.refl`: Chapters, one after the
  other, and those in which nothing is told.
* `Scribe.founded`, `Scribe.loose`: What a hook leaves as it is.
* `Scribe.tells`, `Scribe.asked`: A hook whose context has not passed since.
* `Scribe.passes`: A shift between the two hooks that frame it.
* `Scribe.removeContext`, `Scribe.removeFound`: Removing.
* `Scribe.undoAdd`, `Scribe.addContext`, `Scribe.add`: Adding.
* `Scribe.replaceAtEnd`, `Scribe.exchanges`, `Scribe.replaceBetween`, `Scribe.replace`:
  Replacing.
* `Scribe.move`: Any way to rearrange a pipeline.
-/

namespace Conduit.World

open Roster

variable {τ : Type} {w w₀ w₁ w₂ : World (Recorded τ)} {p : PipelineId} {c d old new : ContextId}
  {es : List Juncture} {call : Caller (Recorded τ)} {leaving entering : Option ContextId} {n : Nat}

/-- A sound world that has `n` pipelines at least. -/
structure Founded {σ : Type} (n : Nat) (w : World σ) : Prop where
  sound : w.Sound
  pipelines : ∀ p < n, p < w.pipelines.length

theorem Founded.of_length {σ : Type} {w w' : World σ} (hw : w.Founded n) (hw' : w'.Sound)
    (hlen : w'.pipelines.length = w.pipelines.length) : w'.Founded n :=
  ⟨hw', fun p hp => hlen ▸ hw.pipelines p hp⟩

/-- What becomes of a context in a part of a run. -/
def Chapter (d : ContextId) (w w' : World (Recorded τ)) : Prop :=
  ∃ es, Recounts d w w' es ∧ Told es ∧ Tally d w w' es

/-- A caller who takes notes of hooks, within which chapters may be told. -/
structure Scribe (n : Nat) (d : ContextId) (call : Caller (Recorded τ)) : Prop where
  lineage : Heeds Lineage call
  stays : Heeds (fun w w' => ∀ p < w.pipelines.length, p < w'.pipelines.length) call
  /-- Since the last note somebody may have passed. -/
  hook : ∀ {w w₁ w₂ : World (Recorded τ)} {c : ContextId} {hook : Hook} {outcome : Outcome},
    w₁.Founded n → w₁.user.notes = w.user.notes → w₁.callHook call c hook = (outcome, w₂) →
      ∃ es, Told es ∧ Tally d w₁ w₂ es ∧ Recounts d w w₂
        (seenAgain (w.shows d) (w₁.shows d) ++ hooked c d hook es outcome.isOk)

/-! ### Chapters -/

theorem Chapter.trans (h : Chapter d w₀ w₁) (h' : Chapter d w₁ w₂) : Chapter d w₀ w₂ := by
  obtain ⟨es, hrecounts, htold, htally⟩ := h
  obtain ⟨es', hrecounts', htold', htally'⟩ := h'
  exact ⟨es ++ es', hrecounts.trans hrecounts', htold.append htold', htally.trans htally'⟩

/-- Nobody has passed, and nothing has been noted. -/
theorem Chapter.quiet (hnotes : w₁.user.notes = w.user.notes) (h : Shift none none w w₁) :
    Chapter d w w₁ := by
  have hshows := (h.stayed d nofun nofun).1
  have htally := h.tally d
  rw [hshows, seenAgain_self] at htally
  exact ⟨[], .still hnotes hshows, .nil, htally⟩

theorem Chapter.same (hnotes : w₁.user.notes = w.user.notes) (h : w₁.outline = w.outline) :
    Chapter d w w₁ :=
  .quiet hnotes (.of_outline h)

theorem Chapter.refl (d : ContextId) (w : World (Recorded τ)) : Chapter d w w := .same rfl rfl

namespace Scribe

variable (h : Scribe n d call) {outcome : Outcome} {hook : Hook} {x : Passage}
include h

/-! ### Hooks -/

theorem founded (hw : w.Founded n) (hhook : w.callHook call c hook = (outcome, w₁)) :
    w₁.Founded n := by
  have hlineage := callHook_lineage h.lineage w c hook hw.sound
  have hstays := h.stays (.handler c (.hook hook)) w
  rw [hhook] at hlineage
  rw [show call (.handler c (.hook hook)) w = (outcome, w₁) from hhook] at hstays
  exact ⟨hlineage.sound, fun p hp => hstays p (hw.pipelines p hp)⟩

theorem loose (hw : w.Founded n) (hhook : w.callHook call c hook = (outcome, w₁))
    (hnew : w.Loose p (w.roster p) new) : w₁.Loose p (w₁.roster p) new := by
  have hafter := callHook_lineage h.lineage w c hook hw.sound
  rw [hhook] at hafter
  exact hafter.loose (Nat.le_refl _) hnew.known hnew

/-- What a hook tells, if nobody has passed. -/
theorem tells (hw : w.Founded n) (hhook : w.callHook call c hook = (outcome, w₁)) :
    ∃ es, Told es ∧ Tally d w w₁ es ∧ Recounts d w w₁ (hooked c d hook es outcome.isOk) := by
  have htold := h.hook hw rfl hhook (w := w)
  rwa [seenAgain_self] at htold

/-- What a hook tells before a passage is a chapter, if it comes to nothing. -/
theorem asked (hw : w.Founded n) (hhook : w.callHook call c x.before = (outcome, w₁)) :
    Chapter d w w₁ := by
  obtain ⟨es, htold, htally, hrecounts⟩ := h.tells hw hhook
  exact ⟨_, hrecounts, htold.asking x _, htally.hooked _ _ _⟩

/-- A shift between the two hooks that frame it. -/
theorem passes (hw : w.Founded n) (hhook : w.callHook call c x.before = (.ok (), w₁))
    (hshift : Shift leaving entering w₁ w₂) (hnotes : w₂.user.notes = w₁.user.notes)
    (hseen : leaving.elim [] (here · d .unlinked) ++ entering.elim [] (here · d .linked) =
      here c d x.change) (hw₂ : w₂.Founded n) : Chapter d w (w₂.callHook call c x.after).2 := by
  obtain ⟨es, htold, htally, hrecounts⟩ := h.tells hw hhook
  have hheard : w₂.callHook call c x.after = (_, _) := rfl
  obtain ⟨es', htold', htally', hrecounts'⟩ := h.hook hw₂ hnotes hheard
  have hshifted := hshift.tally d
  rw [hshift.seenAgain, hseen] at hrecounts' hshifted
  exact ⟨_, hrecounts.trans hrecounts', .passed x htold htold' _,
    (htally.hooked _ _ _).trans (hshifted.trans (htally'.hooked _ _ _))⟩

/-! ### Taking out -/

theorem removeContext (hw : w.Founded n) (p : PipelineId) (c : ContextId) :
    Chapter d w (w.removeContext call p c).2 := by
  rw [World.removeContext]
  cases hhook : w.callHook call c .beforeRemove with
  | mk outcome w₁ =>
      have hasked : Chapter d w w₁ := h.asked (x := .leaving) hw hhook
      have hw₁ := h.founded hw hhook
      cases outcome with
      | error cause => exact hasked
      | ok _ =>
          dsimp only
          cases hunlink : (w₁.chain p).unlink c with
          | mk linked chain =>
              cases linked with
              | false =>
                  -- The hook has agreed, but somebody else has been quicker.
                  have hsame : chain = w₁.chain p :=
                    (congrArg Prod.snd hunlink).symm.trans
                      (unlink_absent (congrArg Prod.fst hunlink))
                  rw [hsame]
                  exact hasked.trans (.same rfl (outline_setChain_self w₁ p))
              | true =>
                  have hc : c ∈ ids (w₁.roster p) :=
                    (hw₁.sound p).mem_of_unlink (congrArg Prod.fst hunlink)
                  have hdone : ((w₁.chain p).edit (.unlink c)).2 = .done := by
                    rw [Chain.edit, hunlink]
                    rfl
                  have hshift : Shift (some c) none w₁
                      ((w₁.setChain p ((w₁.chain p).unlink c).2).markRemoved c) :=
                    hw₁.sound.edited (lt_of_mem_roster hc) hdone fun x hx => by cases hx
                  have hw₂ := hw₁.of_length (Descends.unlinked hw₁.sound hc 0).sound
                    (List.length_modify _ _ _)
                  rw [hunlink] at hshift hw₂
                  have hpassed : Chapter d w (((w₁.setChain p chain).markRemoved c).callHook call c
                      .afterRemove).2 :=
                    h.passes (x := .leaving) hw hhook hshift rfl (List.append_nil _) hw₂
                  dsimp only
                  rw [if_neg (by decide)]
                  -- That the last hook fails makes no difference.
                  cases hafter : (((w₁.setChain p chain).markRemoved c).callHook call c
                      .afterRemove) with
                  | mk outcome w₂ =>
                      rw [hafter] at hpassed
                      cases outcome with
                      | error cause => exact hpassed
                      | ok _ => exact hpassed

theorem removeFound (hw : w.Founded n) (p : PipelineId) (found : Option ContextId)
    (absence : AbsenceFault) : Chapter d w (w.removeFound call p found absence).2 := by
  cases found with
  | none => exact .refl d w
  | some c => exact h.removeContext hw p c

/-! ### Putting in -/

variable [Journal τ]

theorem undoAdd (hw : w.Founded n) (p : PipelineId) (c : ContextId) (cause : Error) :
    Chapter d w (w.undoAdd call p c cause).2 := by
  have hremoved := h.removeContext hw p c
  rw [World.undoAdd]
  cases hremove : w.removeContext call p c with
  | mk outcome w₁ =>
      rw [hremove] at hremoved
      cases outcome with
      | ok _ => exact hremoved
      | error second => exact hremoved.trans (.same rfl rfl)

theorem addContext (hw : w.Founded n) (hp : p < n)
    (hc : w.Loose p (w.roster p) c) (position : Position) :
    Chapter d w (w.addContext call p position c).2 := by
  rw [World.addContext]
  cases (w.chain p).checkInsert (w.context c).name position with
  | error cause => exact .refl d w
  | ok _ =>
      dsimp only
      cases hhook : w.callHook call c .beforeAdd with
      | mk outcome w₁ =>
          -- If the hook refuses, or the chain does, to have been asked is all that has happened.
          have hasked : Chapter d w w₁ := h.asked (x := .joining) hw hhook
          have hw₁ := h.founded hw hhook
          cases outcome with
          | error cause => exact hasked
          | ok _ =>
              -- The hook may have rearranged the pipeline, but nobody else links the context.
              have hc₁ := h.loose hw hhook hc
              dsimp only
              cases hinsert : (w₁.chain p).insert c (w₁.context c).name
                  (w₁.context c).handler.events position with
              | mk inserted chain =>
                  cases inserted with
                  | error cause =>
                      have hsame : chain = w₁.chain p :=
                        (congrArg Prod.snd hinsert).symm.trans
                          (insert_refused (congrArg Prod.fst hinsert))
                      rw [hsame]
                      exact hasked.trans (.same rfl (outline_setChain_self w₁ p))
                  | ok _ =>
                      have hdone : ((w₁.chain p).edit (.insert (w₁.member c) position)).2 = .done :=
                        congrArg Reply.ofOutcome (congrArg Prod.fst hinsert)
                      have hshift : Shift none (some c) w₁ (w₁.setChain p ((w₁.chain p).insert c
                          (w₁.context c).name (w₁.context c).handler.events position).2) :=
                        hw₁.sound.edited (hw₁.pipelines p hp) hdone fun x hx => by
                          cases hx
                          exact hc₁
                      have hw₂ := hw₁.of_length
                        (Descends.offered hw₁.sound hc₁ (Nat.zero_le _) position).sound
                        (List.length_modify _ _ _)
                      rw [hinsert] at hshift hw₂
                      have hpassed : Chapter d w ((w₁.setChain p chain).callHook call c
                          .afterAdd).2 :=
                        h.passes (x := .joining) hw hhook hshift rfl (List.nil_append _) hw₂
                      dsimp only
                      cases hafter : (w₁.setChain p chain).callHook call c .afterAdd with
                      | mk outcome w₃ =>
                          rw [hafter] at hpassed
                          cases outcome with
                          | ok _ => exact hpassed
                          | error cause =>
                              -- It has been linked and told so, and now it is taken out.
                              exact hpassed.trans (h.undoAdd (h.founded hw₂ hafter) p c cause)

theorem add (hw : w.Founded n) (hp : p < n) (position : Position) (name : String)
    (handler : Handler) : Chapter d w (w.add call p position name handler).2 := by
  rw [World.add]
  cases w.checkAdd p position name handler with
  | error cause => exact .refl d w
  | ok _ =>
      have hnew : Chapter d w (w.newContext p name handler).2 :=
        .quiet rfl (hw.sound.newContext p name handler)
      have hsound := hw.of_length (Descends.newContext hw.sound p name handler).sound rfl
      have hloose := hw.sound.newContext_loose p name handler
      exact hnew.trans (h.addContext hsound hp hloose position)

/-! ### Replacing -/

theorem replaceAtEnd (hw : w.Founded n) (hp : p < n)
    (hnew : w.Loose p (w.roster p) new) (position : Position) :
    Chapter d w (w.replaceAtEnd call p position old new).2 := by
  -- At an end, replacing is a removal and an addition, a chapter each.
  have hvital : Vital (fun w => ∀ p < n, p < w.pipelines.length) call :=
    ⟨fun hw hsame p hp => lt_length_of_vitals hsame (hw p hp),
      fun upcall w hw p hp => h.stays upcall w p (hw p hp)⟩
  have hchapter := h.removeContext hw p old
  have hlineage := removeContext_lineage h.lineage w p old hw.sound
  have hstays := hvital.removeContext hw.pipelines p old
  rw [World.replaceAtEnd]
  cases hremove : w.removeContext call p old with
  | mk outcome w₁ =>
      rw [hremove] at hchapter hlineage hstays
      cases outcome with
      | error cause => exact hchapter
      | ok _ =>
          have hnew₁ := hlineage.loose (Nat.le_refl _) hnew.known hnew
          exact hchapter.trans (h.addContext ⟨hlineage.sound, hstays⟩ hp hnew₁ position)

/-- A shift between the four hooks that frame it, if one context takes the place of another. -/
theorem exchanges (hw : w.Founded n) (hne : old ≠ new)
    (hremove : w.callHook call old .beforeRemove = (.ok (), w₀))
    (hadd : w₀.callHook call new .beforeAdd = (.ok (), w₁))
    (hshift : Shift (some old) (some new) w₁ w₂) (hnotes : w₂.user.notes = w₁.user.notes)
    (hw₂ : w₂.Founded n) : Chapter d w (w₂.settleReplacement call old new).2 := by
  obtain ⟨es₁, htold₁, htally₁, hrecounts₁⟩ := h.tells hw hremove
  obtain ⟨es₂, htold₂, htally₂, hrecounts₂⟩ := h.tells (h.founded hw hremove) hadd
  have hshifted := hshift.tally d
  rw [hshift.seenAgain] at hshifted
  -- The shift is seen by the hook of the old one, also as far as the new one is concerned.
  rw [World.settleReplacement]
  cases hremoved : w₂.callHook call old .afterRemove with
  | mk removed w₃ =>
      obtain ⟨es₃, htold₃, htally₃, hrecounts₃⟩ := h.hook hw₂ hnotes hremoved
      rw [hshift.seenAgain] at hrecounts₃
      dsimp only
      cases hadded : w₃.callHook call new .afterAdd with
      | mk added w₄ =>
          obtain ⟨es₄, htold₄, htally₄, hrecounts₄⟩ := h.tells (h.founded hw₂ hremoved) hadded
          have hrecounts := (hrecounts₁.trans hrecounts₂).trans (hrecounts₃.trans hrecounts₄)
          rw [List.append_assoc _ (hooked old d .afterRemove es₃ removed.isOk)] at hrecounts
          -- All four hooks are counted, the shift in the middle of them.
          have htally := ((htally₁.hooked old .beforeRemove true).trans
            (htally₂.hooked new .beforeAdd true)).trans (hshifted.trans
              ((htally₃.hooked old .afterRemove removed.isOk).trans
                (htally₄.hooked new .afterAdd added.isOk)))
          have hsettled : Chapter d w w₄ :=
            ⟨_, hrecounts, .exchanged hne htold₁ htold₂ htold₃ htold₄ _ _, htally⟩
          cases removed <;> cases added
          · exact hsettled.trans (.same rfl rfl)
          · exact hsettled
          · exact hsettled
          · exact hsettled

theorem replaceBetween (hw : w.Founded n) (hp : p < n)
    (hnew : w.Loose p (w.roster p) new) :
    Chapter d w (w.replaceBetween call p old new).2 := by
  rw [World.replaceBetween]
  cases hremove : w.callHook call old .beforeRemove with
  | mk outcome w₁ =>
      have hw₁ := h.founded hw hremove
      -- Both are asked before the chain is touched, the old one first.
      have hold : Chapter d w w₁ := h.asked (x := .leaving) hw hremove
      cases outcome with
      | error cause => exact hold
      | ok _ =>
          have hnew₁ := h.loose hw hremove hnew
          dsimp only
          cases hadd : w₁.callHook call new .beforeAdd with
          | mk outcome w₂ =>
              have hw₂ := h.founded hw₁ hadd
              have hasked : Chapter d w w₂ := hold.trans (h.asked (x := .joining) hw₁ hadd)
              cases outcome with
              | error cause => exact hasked
              | ok _ =>
                  have hnew₂ := h.loose hw₁ hadd hnew₁
                  dsimp only
                  cases hreplace : (w₂.chain p).replace old new (w₂.context new).name
                      (w₂.context new).handler.events with
                  | mk replaced chain =>
                      cases replaced with
                      | error cause =>
                          have hsame : chain = w₂.chain p :=
                            (congrArg Prod.snd hreplace).symm.trans
                              (replace_refused (congrArg Prod.fst hreplace))
                          rw [hsame]
                          exact hasked.trans (.same rfl (outline_setChain_self w₂ p))
                      | ok _ =>
                          have hdone : ((w₂.chain p).edit (.replace old (w₂.member new))).2 =
                              .done := congrArg Reply.ofOutcome (congrArg Prod.fst hreplace)
                          have hshift : Shift (some old) (some new) w₂
                              ((w₂.setChain p ((w₂.chain p).replace old new (w₂.context new).name
                                (w₂.context new).handler.events).2).markRemoved old) :=
                            hw₂.sound.edited (hw₂.pipelines p hp) hdone fun x hx => by
                              cases hx
                              exact hnew₂
                          have hw₃ := hw₂.of_length (Descends.exchanged hw₂.sound hnew₂
                            (Nat.zero_le _) (congrArg Prod.fst hreplace)).sound
                            (List.length_modify _ _ _)
                          rw [hreplace] at hshift hw₃
                          -- The one that leaves was linked, and the new one is not.
                          have hne : old ≠ new := fun he =>
                            (hshift.enters new rfl).1 (he ▸ (hshift.leaves old rfl).1)
                          exact h.exchanges hw hne hremove hadd hshift rfl hw₃

theorem replace (hw : w.Founded n) (hp : p < n) (oldName newName : String)
    (handler : Handler) : Chapter d w (w.replace call p oldName newName handler).2 := by
  rw [World.replace]
  cases w.checkReplace p oldName newName handler with
  | error cause => exact .refl d w
  | ok old =>
      have hmade : Chapter d w (w.newContext p newName handler).2 :=
        .quiet rfl (hw.sound.newContext p newName handler)
      have hsound := hw.of_length (Descends.newContext hw.sound p newName handler).sound rfl
      have hloose := hw.sound.newContext_loose p newName handler
      dsimp only
      split
      · exact hmade.trans (h.replaceAtEnd hsound hp hloose .first)
      · split
        · exact hmade.trans (h.replaceAtEnd hsound hp hloose .last)
        · exact hmade.trans (h.replaceBetween hsound hp hloose)

/-- Any way to rearrange a pipeline. -/
theorem move (hw : w.Founded n) (hp : p < n) (m : Move) :
    Chapter d w (w.move call p m) := by
  cases m with
  | add position name handler => exact h.add hw hp position name handler
  | remove name => exact h.removeFound hw p _ _
  | removeFirst => exact h.removeFound hw p _ _
  | removeLast => exact h.removeFound hw p _ _
  | removeHandler c => exact h.removeFound hw p _ _
  | replace oldName newName handler => exact h.replace hw hp oldName newName handler

end Scribe

end Conduit.World
