import Conduit.Proofs.Dispatch.Inbound
import Conduit.Proofs.World.Hearing
import Mathlib.Logic.Function.Basic

/-!
# What Becomes of a Replacement

A handler is replaced by a single exchange if it stands between two others, and
by a removal and an addition if it stands at an end. Four hooks may object on the
way. Between two others an objection before the exchange prevents it and one after
it comes too late, so the roster ends as it was or with the new member in the place
of the old one.

At an end there is a moment at which neither is linked. Whatever objects from then
on finds the old one gone, and unless the new one gets in after all, both are. That
can happen in three ways: the old handler objects to having been removed, the new
one objects to being added, or it objects to having been added and agrees to be
taken out again. `fate` tells the outcomes apart by what the hooks answer, and
`replace_fate` says that there are no others.

Each hook is asked at most once, at some moment of the call. Up to then only the
chain, marks and the user's part can have changed, and `Gives` says that something
is what a hook answers in such a world.

## Main definitions

* `World.Gives`, `World.Answers`: What a hook answers at some moment, and all hooks.
* `Accords`: Answers that are those of a hearing.
* `Roster.Admits`: Whether a newcomer could join the others.
* `Fate`, `fate`: What becomes of the place of a member that is to be replaced.

## Theorems

* `standing_fate_removed`: All is up to the hooks of the new member.
* `accords_cons`, `Leaving.asked_once`, `Joining.asked_once`, `Leaving.answered`,
  `Joining.answered`: What comes of a hearing, by what hooks answer.
* `edit_replace_middle`: An exchange, where the roster is cut in two.
* `Gives.of_housing`, `Answers.of_housing`, `answers_unasked`, `Answers.ask`,
  `member_of_housing`: What hooks answer.
* `Hears.answers`: What was heard is what the hooks answer, if they leave the world alone.
* `removeContext_member`: The roster after a removal.
* `exchange_middle`, `addContext_slot`: The roster after an exchange and after an addition.
* `Loose.succeeding`, `replaceAtEnd_member`, `replaceBetween_member`: The roster after either
  way to replace.
* `isFirst_member`, `isLast_member`, `checkReplace_member`: What is checked beforehand.
* `replace_fate`: The roster after a replacement.
* `replace_fate_sampleObjection`, `replace_lost`: A replacement that leaves neither handler.
-/

namespace Conduit

open Roster

/-- What becomes of the place of a member that is to be replaced. -/
inductive Fate where
  | kept
  | substituted
  /-- The member is gone, and the new one has not come. -/
  | lost
  deriving DecidableEq, Repr, Inhabited

/-- Who stands in the place of `old` when `new` was to replace it. -/
def Fate.standing (old new : Member) : Fate → Roster
  | kept => [old]
  | substituted => [new]
  | lost => []

/-- What becomes of a member by what its own hooks and those of the new one answer. -/
def fate (atEnd : Bool) (olds news : Hook → Outcome) : Fate :=
  if !(olds .beforeRemove).isOk then .kept
  else if !atEnd then
    if (news .beforeAdd).isOk then .substituted else .kept
  else if !(olds .afterRemove).isOk || !(news .beforeAdd).isOk then .lost
  -- A handler that has objected to its addition is taken out again, unless it objects.
  else if (news .afterAdd).isOk || !(news .beforeRemove).isOk then .substituted
  else .lost

/-- Once the old member has gone without objecting, all is up to the hooks of the new one. -/
theorem standing_fate_removed {olds news : Hook → Outcome}
    (hbefore : (olds .beforeRemove).isOk = true) (hafter : (olds .afterRemove).isOk = true)
    (a b : Roster) (m n : Member) :
    a ++ (fate true olds news).standing m n ++ b =
      if (news .beforeAdd).isOk && ((news .afterAdd).isOk || !(news .beforeRemove).isOk) then
        a ++ n :: b
      else a ++ b := by
  rw [fate, hbefore, hafter]
  cases (news .beforeAdd).isOk with
  | false => simp [Fate.standing]
  | true => cases (news .afterAdd).isOk || !(news .beforeRemove).isOk <;> simp [Fate.standing]

/-- What hooks answer is what they have answered in a hearing. -/
def Accords (answers : Hook → Outcome) (hearing : List (Hook × Outcome)) : Prop :=
  ∀ asked ∈ hearing, answers asked.1 = asked.2

section Hearings

variable {t : String} {hearing : List (Hook × Outcome)} {reply : Outcome} {stays : Bool}
  {answers : Hook → Outcome}

theorem accords_cons {hook : Hook} {answer : Outcome} :
    Accords answers ((hook, answer) :: hearing) ↔
      answers hook = answer ∧ Accords answers hearing :=
  List.forall_mem_cons

theorem Leaving.asked_once (h : Leaving t hearing reply stays) :
    (hearing.map Prod.fst).Nodup := by
  cases h <;> simp

theorem Joining.asked_once (h : Joining t hearing reply stays) :
    (hearing.map Prod.fst).Nodup := by
  cases h with
  | undone cause hleaving => cases hleaving <;> simp
  | _ => simp

/-- Whether a handler stays, and whether taking it out is a success, by what its hooks answer. -/
theorem Leaving.answered (h : Leaving t hearing reply stays) (haccords : Accords answers hearing) :
    stays = !(answers .beforeRemove).isOk ∧
      reply.isOk = ((answers .beforeRemove).isOk && (answers .afterRemove).isOk) := by
  cases h with
  | stays cause =>
      rw [(accords_cons.mp haccords).1]
      exact ⟨rfl, rfl⟩
  | _ =>
      rcases accords_cons.mp haccords with ⟨hbefore, haccords⟩
      rw [hbefore, (accords_cons.mp haccords).1]
      exact ⟨rfl, rfl⟩

/-- Whether a handler is there in the end, by what its hooks answer. -/
theorem Joining.answered (h : Joining t hearing reply stays) (haccords : Accords answers hearing) :
    stays = ((answers .beforeAdd).isOk &&
      ((answers .afterAdd).isOk || !(answers .beforeRemove).isOk)) := by
  rcases h with cause | _ | ⟨cause, hleaving⟩
  · rw [(accords_cons.mp haccords).1]
    rfl
  · rcases accords_cons.mp haccords with ⟨hbefore, haccords⟩
    rw [hbefore, (accords_cons.mp haccords).1]
    rfl
  · rcases accords_cons.mp haccords with ⟨hbefore, haccords⟩
    rcases accords_cons.mp haccords with ⟨hafter, haccords⟩
    rw [hbefore, hafter]
    exact (hleaving.answered haccords).1

end Hearings

namespace Roster

variable {a b : Roster} {m n : Member}

/-- A handler could join these members under a name. -/
def Admits (l : Roster) (name : String) (handler : Handler) : Prop :=
  name ≠ "" ∧ name ∉ names l ∧ (handler.events.isInbound || handler.events.isOutbound) = true

instance (l : Roster) (name : String) (handler : Handler) : Decidable (l.Admits name handler) :=
  inferInstanceAs (Decidable (_ ∧ _ ∧ _))

theorem edit_replace_middle (h : (ids (a ++ m :: b)).Nodup) (hname : n.name ∉ names (a ++ b)) :
    (a ++ m :: b).edit (.replace m.id n) = (a ++ n :: b, .done) := by
  rw [Roster.edit, if_neg (by simp), filter_split h, if_neg hname, map_split h]

end Roster

namespace World

variable {σ : Type} {w w' : World σ} {p : PipelineId} {l a b : Roster} {m : Member}
  {c : ContextId} {call : Caller σ}

/-- Something is what a hook answers, in a world that differs at most in chains, marks and
    the user's part. -/
def Gives (w : World σ) (call : Caller σ) (c : ContextId) (hook : Hook) (answer : Outcome) :
    Prop :=
  ∃ w', w'.housing = w.housing ∧ (call (.handler c (.hook hook)) w').1 = answer

theorem Gives.of_housing {hook : Hook} {answer : Outcome} (h : w'.Gives call c hook answer)
    (hhousing : w'.housing = w.housing) : w.Gives call c hook answer := by
  rcases h with ⟨v, hv, hanswer⟩
  exact ⟨v, hv.trans hhousing, hanswer⟩

/-- The answers of the hooks of a context. -/
def Answers (w : World σ) (call : Caller σ) (c : ContextId) (answers : Hook → Outcome) : Prop :=
  ∀ hook, w.Gives call c hook (answers hook)

theorem Answers.of_housing {answers : Hook → Outcome} (h : w'.Answers call c answers)
    (hhousing : w'.housing = w.housing) : w.Answers call c answers :=
  fun hook => (h hook).of_housing hhousing

/-- A hook that is not asked would have answered something. -/
theorem answers_unasked (w : World σ) (call : Caller σ) (c : ContextId) :
    w.Answers call c fun hook => (call (.handler c (.hook hook)) w).1 :=
  fun _ => ⟨w, rfl, rfl⟩

/-- One more hook is asked. -/
theorem Answers.ask {answers : Hook → Outcome} (h : w.Answers call c answers) {hook : Hook}
    {answer : Outcome} {v : World σ} (hcall : call (.handler c (.hook hook)) w' = (answer, v))
    (hhousing : w'.housing = w.housing) :
    w.Answers call c (Function.update answers hook answer) := by
  intro other
  by_cases hother : other = hook
  · rw [hother, Function.update_self]
    exact ⟨w', hhousing, congrArg Prod.fst hcall⟩
  · rw [Function.update_of_ne hother]
    exact h other

theorem member_of_housing (hhousing : w'.housing = w.housing) (c : ContextId) :
    w'.member c = w.member c := by
  have hname := context_of_housing (f := Context.name) (fun _ => rfl) hhousing c
  have hevents :=
    context_of_housing (f := fun x => x.handler.events) (fun _ => rfl) hhousing c
  rw [member, member, hname, hevents]

/-- Hooks that leave the world alone change nothing that is housed. If each was asked once at
    most, what was heard is what the hooks of the context answer. -/
theorem Hears.answers {hearing : List (Hook × Outcome)} (ha : Aloof call)
    (h : Hears call c w hearing w') (honce : (hearing.map Prod.fst).Nodup) :
    w'.housing = w.housing ∧ ∃ answers, w.Answers call c answers ∧ Accords answers hearing := by
  induction h with
  | done w => exact ⟨rfl, _, answers_unasked w call c, List.forall_mem_nil _⟩
  | @ask w w₁ w₂ w' hook answer hearing hhousing _ hcall _ ih =>
      rw [List.map_cons, List.nodup_cons] at honce
      -- The hook leaves the world alone, so the next one is asked in the same housing.
      rcases ha c hook w₁ with ⟨outcome, user, haloof⟩
      obtain ⟨-, rfl⟩ := Prod.mk.inj (hcall.symm.trans haloof)
      rcases ih honce.2 with ⟨hended, answers, hanswers, haccords⟩
      refine ⟨hended.trans hhousing, _, (hanswers.of_housing hhousing).ask hcall hhousing, ?_⟩
      refine accords_cons.mpr ⟨Function.update_self .., fun asked hmem => ?_⟩
      -- A hook that is asked later is another one, whose answer stands.
      have hother : asked.1 ≠ hook :=
        ne_of_mem_of_not_mem (List.mem_map_of_mem hmem) honce.1
      rw [Function.update_of_ne hother]
      exact haccords asked hmem
  | noting n _ ih => exact ih honce

/-! ### Taking out -/

/-- A member is taken out unless its handler objects beforehand, and the call succeeds if
    the handler does not object afterwards either. -/
theorem removeContext_member (ha : Aloof call) (hp : p < w.pipelines.length)
    (h : w.Hosts p (a ++ m :: b)) :
    ∃ answers, w.Answers call m.id answers ∧
      (w.removeContext call p m.id).1.isOk =
        ((answers .beforeRemove).isOk && (answers .afterRemove).isOk) ∧
      w.Settled p (if (answers .beforeRemove).isOk then a ++ b else a ++ m :: b)
        (w.removeContext call p m.id).2 := by
  rcases removeContext_leaves (ha.spares p) hp h with ⟨hearing, stays, hleaving, hheard, hhosts⟩
  rcases hheard.answers ha hleaving.asked_once with ⟨hhousing, answers, hanswers, haccords⟩
  rcases hleaving.answered haccords with ⟨hstays, hok⟩
  refine ⟨answers, hanswers, hok, ?_, hhousing⟩
  cases hbefore : (answers .beforeRemove).isOk <;> simpa [hstays, hbefore] using hhosts

/-! ### Putting in -/

/-- A chain exchanges a member for a context under a name that is free. -/
theorem exchange_middle {new : ContextId} (h : w.Hosts p (a ++ m :: b))
    (hp : p < w.pipelines.length) (hnew : w.Loose p (a ++ m :: b) new)
    (hname : (w.context new).name ∉ names (a ++ b)) :
    ∃ chain, (w.chain p).replace m.id new (w.context new).name (w.context new).handler.events =
        (.ok (), chain) ∧
      w.Settled p (a ++ w.member new :: b) ((w.setChain p chain).markRemoved m.id) := by
  have hne : m.id ≠ new := by
    rintro rfl
    exact hnew.absent (by simp)
  have hexchanged := h.exchanged hp hnew m.id
  have hgone := h.not_mem_exchanged hnew hne
  rw [edit_replace_middle h.holds.linked.ids_nodup hname] at hexchanged hgone
  -- The new one is not linked, and is therefore another one than the old one.
  have hfresh : new ∉ ids (a ++ b) := by
    have habsent := hnew.absent
    simp only [ids_append, ids_cons, List.mem_append, List.mem_cons, not_or] at habsent ⊢
    exact ⟨habsent.1, habsent.2.2⟩
  rcases Chain.replace_holds (m := w.member new) h.holds hfresh hname with
    ⟨chain, hreplace, -⟩
  have hreplace : (w.chain p).replace m.id new (w.context new).name
      (w.context new).handler.events = (.ok (), chain) := hreplace
  rw [hreplace] at hexchanged hgone
  exact ⟨chain, hreplace, hexchanged.hosts.markRemoved (hgone rfl),
    (housing_markRemoved _ m.id).trans hexchanged.housing⟩

variable [Journal σ]

/-- A context joins the members at a position unless its handler objects, or objects
    afterwards and agrees to be taken out again. -/
theorem addContext_slot (ha : Aloof call) (hp : p < w.pipelines.length) (h : w.Hosts p (a ++ b))
    (hc : w.Loose p (a ++ b) c) (hname : (w.context c).name ∉ names (a ++ b))
    {position : Position} (hslot : slot (a ++ b) position = .ok a.length) :
    ∃ answers, w.Answers call c answers ∧
      w.Settled p
        (if (answers .beforeAdd).isOk &&
            ((answers .afterAdd).isOk || !(answers .beforeRemove).isOk) then
          a ++ w.member c :: b
        else a ++ b)
        (w.addContext call p position c).2 := by
  rcases addContext_joins (ha.spares p) hp h hc hname hslot with
    ⟨hearing, stays, hjoining, hheard, hhosts⟩
  rcases hheard.answers ha hjoining.asked_once with ⟨hhousing, answers, hanswers, haccords⟩
  refine ⟨answers, hanswers, ?_, hhousing⟩
  rwa [← hjoining.answered haccords]

/-! ### Replacing -/

omit [Journal σ] in
/-- What could be linked beside a member can be linked when the member has gone. -/
theorem Loose.succeeding {new : ContextId} (ha : Aloof call) (hp : p < w.pipelines.length)
    (h : w.Hosts p (a ++ m :: b)) (hnew : w.Loose p (a ++ m :: b) new)
    (hhousing : (w.removeContext call p m.id).2.housing = w.housing) :
    (w.removeContext call p m.id).2.Loose p (a ++ b) new := by
  have habsent := hnew.absent
  rw [ids_append, ids_cons, List.mem_append, List.mem_cons, not_or, not_or] at habsent
  rcases habsent with ⟨hna, hne, hnb⟩
  rcases removeContext_hosts ha hp h m.id with ⟨-, -, -, hmarks⟩
  refine hnew.of_housing hhousing (hmarks new (Ne.symm hne)) ?_
  rw [ids_append, List.mem_append, not_or]
  exact ⟨hna, hnb⟩

/-- At an end the old handler is removed and the new one added. -/
theorem replaceAtEnd_member {new : ContextId} (ha : Aloof call) (hp : p < w.pipelines.length)
    (h : w.Hosts p (a ++ m :: b)) (hnew : w.Loose p (a ++ m :: b) new)
    (hname : (w.context new).name ∉ names (a ++ b)) {position : Position}
    (hslot : slot (a ++ b) position = .ok a.length) :
    ∃ olds news, w.Answers call m.id olds ∧ w.Answers call new news ∧
      w.Settled p (a ++ (fate true olds news).standing m (w.member new) ++ b)
        (w.replaceAtEnd call p position m.id new).2 := by
  rcases removeContext_member ha hp h with ⟨olds, holds, hok, hremoved⟩
  -- The new context was made before the removal, and can still be linked after it.
  have hloose := hnew.succeeding ha hp h hremoved.housing
  have hunasked := answers_unasked w call new
  cases hremove : w.removeContext call p m.id with
  | mk outcome w₁ =>
      rw [hremove] at hok hremoved hloose
      simp only [replaceAtEnd, hremove]
      cases hbefore : (olds .beforeRemove).isOk with
      | false =>
          rw [hbefore] at hok hremoved
          cases outcome with
          | ok _ => cases hok
          | error cause =>
              -- Nothing has been done, and nothing more will be.
              refine ⟨olds, _, holds, hunasked, ?_⟩
              simpa [fate, hbefore, Fate.standing] using hremoved
      | true =>
          rw [hbefore] at hok hremoved
          cases outcome with
          | error cause =>
              -- The old handler has gone and objects to that, so the new one is not added.
              have hafter : (olds .afterRemove).isOk = false := hok.symm
              refine ⟨olds, _, holds, hunasked, ?_⟩
              simpa [fate, hbefore, hafter, Fate.standing] using hremoved
          | ok _ =>
              have hafter : (olds .afterRemove).isOk = true := hok.symm
              have hmember := member_of_housing hremoved.housing new
              have hp' : p < w₁.pipelines.length :=
                (length_pipelines_of_housing hremoved.housing).symm ▸ hp
              have hname' : (w₁.context new).name ∉ names (a ++ b) := by
                have hsame : (w₁.context new).name = (w.context new).name :=
                  congrArg Member.name hmember
                rw [hsame]
                exact hname
              rcases addContext_slot ha hp' hremoved.hosts hloose hname' hslot with
                ⟨news, hnews, hadded⟩
              have hhosts := hadded.hosts
              refine ⟨olds, news, holds, hnews.of_housing hremoved.housing, ?_,
                hadded.housing.trans hremoved.housing⟩
              rw [standing_fate_removed hbefore hafter, ← hmember]
              exact hhosts

/-- Between two others the two handlers change places. -/
theorem replaceBetween_member {new : ContextId} (ha : Aloof call) (hp : p < w.pipelines.length)
    (h : w.Hosts p (a ++ m :: b)) (hnew : w.Loose p (a ++ m :: b) new)
    (hname : (w.context new).name ∉ names (a ++ b)) :
    ∃ olds news, w.Answers call m.id olds ∧ w.Answers call new news ∧
      w.Settled p (a ++ (fate false olds news).standing m (w.member new) ++ b)
        (w.replaceBetween call p m.id new).2 := by
  have holds := answers_unasked w call m.id
  have hnews := answers_unasked w call new
  rcases ha m.id .beforeRemove w with ⟨before, user, hbefore⟩
  cases before with
  | error cause =>
      refine ⟨_, _, holds.ask hbefore rfl, hnews, ?_⟩
      simp only [replaceBetween, callHook, hbefore, fate, Function.update_self]
      simpa [Fate.standing, Except.isOk, Except.toBool] using
        (⟨h.setUser user, rfl⟩ : w.Settled p _ (w.setUser user))
  | ok done =>
      rcases ha new .beforeAdd (w.setUser user) with ⟨beforeAdd, user', hbefore'⟩
      refine ⟨_, _, holds.ask hbefore rfl, hnews.ask hbefore' rfl, ?_⟩
      have h' := (h.setUser user).setUser user'
      have hnew' := (hnew.setUser user).setUser user'
      cases beforeAdd with
      | error cause =>
          simp only [replaceBetween, callHook, hbefore, hbefore', fate, Function.update_self]
          simpa [Fate.standing, Except.isOk, Except.toBool] using
            (⟨h', rfl⟩ : w.Settled p _ ((w.setUser user).setUser user'))
      | ok done' =>
          rcases exchange_middle h' hp hnew' hname with ⟨chain, hreplace, hexchanged⟩
          have hhosts : Hosts _ p (a ++ w.member new :: b) := hexchanged.hosts
          -- The exchange stands, whatever the last two hooks say.
          rcases settleReplacement_user ha
            ((((w.setUser user).setUser user').setChain p chain).markRemoved m.id) m.id new with
            ⟨user'', hsettle⟩
          simp only [replaceBetween, callHook, hbefore, hbefore', hreplace, hsettle, fate,
            Function.update_self]
          simpa [Fate.standing, Except.isOk, Except.toBool] using
            (⟨hhosts.setUser user'', hexchanged.housing⟩ : w.Settled p _ _)

/-! ### Whole calls -/

omit [Journal σ] in
theorem isFirst_member (h : w.Hosts p (a ++ m :: b)) : (w.chain p).isFirst m.id = a.isEmpty := by
  rw [Bool.eq_iff_iff, Chain.isFirst, beq_iff_eq, h.holds.linked.head,
    head?_split h.holds.linked.ids_nodup, List.isEmpty_iff]

omit [Journal σ] in
theorem isLast_member (h : w.Hosts p (a ++ m :: b)) : (w.chain p).isLast m.id = b.isEmpty := by
  rw [Bool.eq_iff_iff, Chain.isLast, beq_iff_eq, h.holds.linked.tail,
    getLast?_split h.holds.linked.ids_nodup, List.isEmpty_iff]

omit [Journal σ] in
/-- A member can be replaced just when the newcomer could join the others. -/
theorem checkReplace_member (h : w.Hosts p (a ++ m :: b)) (newName : String)
    (handler : Handler) :
    if (a ++ b).Admits newName handler then
      w.checkReplace p m.name newName handler = .ok m.id
    else ∃ cause, w.checkReplace p m.name newName handler = .error cause := by
  have hlinked := h.holds.linked
  have hold := Chain.idOf_eq hlinked (m := m) (by simp)
  -- The name of the member itself is free as soon as the member goes.
  have htaken : newName ≠ m.name ∧ (w.chain p).names.contains newName = true ↔
      newName ∈ names (a ++ b) := by
    rw [hlinked.contains_names, names_append, names_append, names_cons, List.mem_append,
      List.mem_append, List.mem_cons]
    constructor
    · rintro ⟨hne, hbefore | hself | hafter⟩
      · exact Or.inl hbefore
      · exact absurd hself hne
      · exact Or.inr hafter
    · intro hmem
      refine ⟨?_, hmem.imp_right Or.inr⟩
      rintro rfl
      rw [← List.mem_append, ← names_append] at hmem
      exact (names_nodup_middle.mp hlinked.names_nodup).1 hmem
  by_cases hempty : newName.isEmpty = true
  · have hcheck : checkName newName = .error (.argument .emptyName) := if_pos hempty
    rw [if_neg fun hadmits => hadmits.1 (String.isEmpty_iff.mp hempty), checkReplace, hcheck]
    exact ⟨_, rfl⟩
  · have hcheck : checkName newName = .ok () := if_neg hempty
    rw [checkReplace, hcheck, hold]
    by_cases hname : newName ∈ names (a ++ b)
    · rw [if_neg fun hadmits => hadmits.2.1 hname]
      refine ⟨.argument (.duplicateName newName), ?_⟩
      simp only [bind, Except.bind, if_pos (htaken.mpr hname)]
      rfl
    · simp only [bind, Except.bind, if_neg (mt htaken.mp hname)]
      by_cases hevents : (handler.events.isInbound || handler.events.isOutbound) = true
      · rw [if_pos ⟨fun he => hempty (String.isEmpty_iff.mpr he), hname, hevents⟩, checkEvents,
          if_pos hevents]
        rfl
      · rw [if_neg fun hadmits => hevents hadmits.2.2, checkEvents, if_neg hevents]
        exact ⟨_, rfl⟩

/-- If the newcomer could not join the others, nothing is done. Otherwise the roster ends as
    `fate` says for what the hooks of the two handlers answer: as it was, or with the new
    member in the place of the old one, or, at an end only, without either. -/
theorem replace_fate (ha : Aloof call) (hp : p < w.pipelines.length)
    (h : w.Hosts p (a ++ m :: b)) (newName : String) (handler : Handler) :
    if (a ++ b).Admits newName handler then
      ∃ olds news, (w.newContext p newName handler).2.Answers call m.id olds ∧
        (w.newContext p newName handler).2.Answers call w.contexts.length news ∧
        (w.replace call p m.name newName handler).2.Hosts p
          (a ++ (fate (a.isEmpty || b.isEmpty) olds news).standing m
            ⟨w.contexts.length, newName, handler.events⟩ ++ b)
    else ∃ cause, w.replace call p m.name newName handler = (.error cause, w) := by
  have hcheck := checkReplace_member h newName handler
  by_cases hadmits : (a ++ b).Admits newName handler
  · rw [if_pos hadmits] at hcheck ⊢
    have hnew := h.newContext p newName handler
    have hp' : p < (w.newContext p newName handler).2.pipelines.length := hp
    have hloose := loose_newContext h newName handler
    have hmember : (w.newContext p newName handler).2.member w.contexts.length =
        ⟨w.contexts.length, newName, handler.events⟩ := by
      rw [member, context_length_newContext]
    have hname : ((w.newContext p newName handler).2.context w.contexts.length).name ∉
        names (a ++ b) := by
      rw [context_length_newContext]
      exact hadmits.2.1
    rw [← hmember]
    simp only [replace, hcheck, isFirst_member hnew, isLast_member hnew]
    by_cases hfirst : a.isEmpty = true
    · -- Where the old one stood is where the new one is put, at either end.
      have hslot : slot (a ++ b) .first = .ok a.length := by
        rw [List.isEmpty_iff.mp hfirst]
        rfl
      rcases replaceAtEnd_member ha hp' hnew hloose hname hslot with ⟨olds, news, ho, hn, hdone⟩
      rw [if_pos hfirst, hfirst, Bool.true_or]
      exact ⟨olds, news, ho, hn, hdone.hosts⟩
    · rw [if_neg hfirst, Bool.eq_false_iff.mpr hfirst, Bool.false_or]
      by_cases hlast : b.isEmpty = true
      · have hslot : slot (a ++ b) .last = .ok a.length := by
          rw [List.isEmpty_iff.mp hlast, List.append_nil]
          rfl
        rcases replaceAtEnd_member ha hp' hnew hloose hname hslot with ⟨olds, news, ho, hn, hdone⟩
        rw [if_pos hlast, hlast]
        exact ⟨olds, news, ho, hn, hdone.hosts⟩
      · rcases replaceBetween_member ha hp' hnew hloose hname with ⟨olds, news, ho, hn, hdone⟩
        rw [if_neg hlast, Bool.eq_false_iff.mpr hlast]
        exact ⟨olds, news, ho, hn, hdone.hosts⟩
  · rw [if_neg hadmits] at hcheck ⊢
    rcases hcheck with ⟨cause, hcheck⟩
    refine ⟨cause, ?_⟩
    simp only [replace, hcheck]

/-- A handler that objects to having been removed. -/
def sampleObjection : Cast
  | _, 0, .hook .afterRemove => .fail .closed
  | _, _, _ => .proceed

def sampleNewcomer : Handler :=
  { typeName := "Sample", events := .ofList [.channelActive], role := .custom 0 }

/-- The hooks of the members are asked of the cast, so what they answer is fixed. -/
theorem replace_fate_sampleObjection :
    (sampleStage.replace (respond sampleObjection.play 1) 0 "a" "d" sampleNewcomer).2.Hosts 0
      [⟨1, "b", .ofList [.channelActive, .exceptionCaught]⟩,
        ⟨2, "c", .ofList [.exceptionCaught]⟩] := by
  have h := replace_fate (aloof_respond sampleObjection 1) (by decide) (a := [])
    sampleStage_staged.hosts "d" sampleNewcomer
  rw [if_pos (by decide)] at h
  rcases h with ⟨olds, news, holds, -, hhosts⟩
  -- The cast answers for a context by its role, which is the same in every world of the call.
  have hrole : ∀ w' : World Diary,
      w'.housing = (sampleStage.newContext 0 "d" sampleNewcomer).2.housing →
        (w'.context 0).handler.role = .custom 0 :=
    fun w' hw' => context_of_housing (f := fun x => x.handler.role) (fun _ => rfl) hw' 0
  have hbefore : (olds .beforeRemove).isOk = true := by
    rcases holds .beforeRemove with ⟨w', hw', hanswer⟩
    rw [← hanswer, respond_custom (hrole w' hw')]
    rfl
  have hafter : (olds .afterRemove).isOk = false := by
    rcases holds .afterRemove with ⟨w', hw', hanswer⟩
    rw [← hanswer, respond_custom (hrole w' hw')]
    rfl
  rw [fate, hbefore, hafter] at hhosts
  exact hhosts

/-- The first handler of three has gone, and the one that was to take its place has not
    come: the names are not what they were, nor is the old one replaced by the new one. -/
theorem replace_lost :
    let w := (sampleStage.replace (respond sampleObjection.play 1) 0 "a" "d" sampleNewcomer).2
    Aloof (respond sampleObjection.play 1) ∧
      (sampleStage.chain 0).toList.map (fun c => (sampleStage.context c).name) = ["a", "b", "c"] ∧
      (w.chain 0).toList.map (fun c => (w.context c).name) = ["b", "c"] :=
  ⟨aloof_respond sampleObjection 1, rfl, rfl⟩

end World

end Conduit
